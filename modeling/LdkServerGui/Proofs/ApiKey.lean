import LdkServerGui.Config

/-!
# The API key read from the node's storage

`load_api_key_from_file` reads `{storage_dir}/{network_dir}/api_key` and sends its bytes as
lower-case hexadecimal. The encoding loses nothing: reading the hex back two digits at a time
(`fromLowerHex`) gives the file's bytes (`fromLowerHex_toLowerHexString`). So the key the app
sends decodes to exactly the key file, and there is no key when the file cannot be read
(`loadApiKeyFromFile_decodes`).
-/

namespace LdkServerGui

def hexValue (c : Char) : Option Nat :=
  if '0' ≤ c ∧ c ≤ '9' then some (c.toNat - '0'.toNat)
  else if 'a' ≤ c ∧ c ≤ 'f' then some (c.toNat - 'a'.toNat + 10)
  else none

/-- Lower-case hexadecimal read back into bytes, two digits to a byte. -/
def fromLowerHex : List Char → Option (List UInt8)
  | [] => some []
  | hi :: lo :: rest => do
    let h ← hexValue hi
    let l ← hexValue lo
    let bytes ← fromLowerHex rest
    pure (UInt8.ofNat (16 * h + l) :: bytes)
  | [_] => none

theorem hexValue_hexDigit {n : Nat} (h : n < 16) : hexValue (hexDigit n) = some n := by
  have : ∀ n, n < 16 → hexValue (hexDigit n) = some n := by decide
  exact this n h

theorem fromLowerHex_toLowerHexString (bytes : List UInt8) :
    fromLowerHex (toLowerHexString bytes).toList = some bytes := by
  induction bytes with
  | nil => rfl
  | cons b bytes ih =>
    have hb : b.toNat < 256 := b.toNat_lt_size
    change fromLowerHex (hexDigit (b.toNat / 16) :: hexDigit (b.toNat % 16) :: (toLowerHexString bytes).toList) = _
    rw [fromLowerHex, hexValue_hexDigit (by omega), hexValue_hexDigit (by omega), ih]
    show some (UInt8.ofNat (16 * (b.toNat / 16) + b.toNat % 16) :: bytes) = some (b :: bytes)
    rw [Nat.div_add_mod, UInt8.toNat.inj (UInt8.toNat_ofNat_of_lt hb)]

theorem loadApiKeyFromFile_decodes (readFile : ReadFile) (storageDir network : String) :
    (loadApiKeyFromFile readFile storageDir network).map (fun key => fromLowerHex key.toList) =
      (readFile (pathJoin (pathJoin storageDir (networkToDirName network)) "api_key")).map some := by
  rw [loadApiKeyFromFile, Option.map_map]
  exact Option.map_congr fun bytes _ => fromLowerHex_toLowerHexString bytes

end LdkServerGui
