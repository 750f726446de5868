import Mathlib.Algebra.Group.Nat.Basic
import Mathlib.Data.List.Basic

/-!
# The standard-library string functions the forms go through

`str::trim` and `<u64 as FromStr>::from_str` (`str::parse::<u64>()`, and the `u32` one), written
over the character list so that `decide` evaluates them. `Rust.trim` strips the Unicode
`White_Space` characters (`char::is_whitespace`), not just the ASCII ones `String.trim` knows.
-/

namespace LdkServerGui.Rust

/-- `char::is_whitespace`: the characters with the Unicode `White_Space` property. -/
def isWhitespace (c : Char) : Bool :=
  let n := c.toNat
  (0x09 ≤ n && n ≤ 0x0D) || n == 0x20 || n == 0x85 || n == 0xA0 || n == 0x1680 ||
    (0x2000 ≤ n && n ≤ 0x200A) || n == 0x2028 || n == 0x2029 || n == 0x202F || n == 0x205F ||
    n == 0x3000

def trim (s : String) : String :=
  ⟨((s.toList.dropWhile isWhitespace).reverse.dropWhile isWhitespace).reverse⟩

/-- `from_str_radix(s, 10)` for an unsigned type of `bits` bits: an optional `+`, then at least one
ASCII digit, and a value below `2 ^ bits`. A lone `+`, a `-`, an empty string and any other
character are errors, as is an overflow. -/
def parseUnsigned (bits : Nat) (s : String) : Option Nat :=
  let digits := match s.toList with
    | '+' :: rest => rest
    | cs => cs
  if !digits.isEmpty && digits.all Char.isDigit then
    let n := digits.foldl (fun acc c => 10 * acc + (c.toNat - '0'.toNat)) 0
    if n < 2 ^ bits then some n else none
  else none

def parseU64 (s : String) : Option Nat := parseUnsigned 64 s

def parseU32 (s : String) : Option Nat := parseUnsigned 32 s

example : parseU64 (trim " +42\t") = some 42 := by decide
example : parseU64 "18446744073709551616" = none := by decide

end LdkServerGui.Rust
