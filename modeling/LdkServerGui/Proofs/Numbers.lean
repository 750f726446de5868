import LdkServerGui.Rust
import Mathlib.Data.Nat.Digits

/-!
# The numbers the forms read

Every amount, fee and expiry field goes through `s.trim().parse::<u64>()` (or `u32`). What that
accepts is exactly a decimal numeral of a value below `2 ^ bits`, after an optional `+` and any
leading zeros, with whitespace around (`parseUnsigned_trim_eq_some`); the value read is the
numeral's. In particular the decimal form of every `u64` reads back as itself, and a field with
anything else in it (a separator, a unit, a sign other than `+`, an overflow) reads as none.

`parseUnsigned_eq_some` is the statement without the whitespace; it rests on reading a digit
string as `Nat.toDigits` writes it (`eq_replicate_append_toDigits`, `digitsValue_toDigits`).
-/

namespace LdkServerGui.Rust

def stripPlus : List Char → List Char
  | '+' :: rest => rest
  | cs => cs

def digitsValue (acc : Nat) (cs : List Char) : Nat :=
  cs.foldl (fun acc c => 10 * acc + (c.toNat - '0'.toNat)) acc

theorem parseUnsigned_eq (bits : Nat) (s : String) :
    parseUnsigned bits s =
      if !(stripPlus s.toList).isEmpty && (stripPlus s.toList).all Char.isDigit then
        if digitsValue 0 (stripPlus s.toList) < 2 ^ bits then some (digitsValue 0 (stripPlus s.toList))
        else none
      else none := rfl

/-! ### Digits -/

theorem isDigit_iff (c : Char) : c.isDigit = true ↔ 48 ≤ c.toNat ∧ c.toNat ≤ 57 := by
  simp only [Char.isDigit, Bool.and_eq_true, decide_eq_true_eq]
  exact Iff.rfl

theorem digitChar_eq {d : Nat} (h : d < 10) : Nat.digitChar d = Char.ofNat (48 + d) := by
  have : ∀ d, d < 10 → Nat.digitChar d = Char.ofNat (48 + d) := by decide
  exact this d h

theorem toNat_digitChar {d : Nat} (h : d < 10) : (Nat.digitChar d).toNat = 48 + d := by
  have : ∀ d, d < 10 → (Nat.digitChar d).toNat = 48 + d := by decide
  exact this d h

theorem isDigit_digitChar {d : Nat} (h : d < 10) : (Nat.digitChar d).isDigit = true := by
  rw [isDigit_iff, toNat_digitChar h]; omega

theorem digitChar_toNat_sub {c : Char} (h : c.isDigit = true) : Nat.digitChar (c.toNat - 48) = c := by
  rw [isDigit_iff] at h
  rw [digitChar_eq (by omega), Nat.add_sub_cancel' h.1, Char.ofNat_toNat]

/-! ### `Nat.toDigits` in base ten -/

theorem toDigitsCore_append (b f n : Nat) (ds : List Char) :
    Nat.toDigitsCore b f n ds = Nat.toDigitsCore b f n [] ++ ds := by
  induction f generalizing n ds with
  | zero => rfl
  | succ f ih =>
    simp only [Nat.toDigitsCore]
    split
    · rfl
    · rw [ih _ (_ :: ds), ih _ [_], List.append_assoc, List.singleton_append]

theorem toDigitsCore_fuel {b : Nat} (hb : 1 < b) {f f' n : Nat} (hf : n < f) (hf' : n < f')
    (ds : List Char) : Nat.toDigitsCore b f n ds = Nat.toDigitsCore b f' n ds := by
  induction f generalizing f' n ds with
  | zero => omega
  | succ f ih =>
    obtain ⟨f', rfl⟩ : ∃ g, f' = g + 1 := ⟨f' - 1, by omega⟩
    simp only [Nat.toDigitsCore]
    split
    · rfl
    · rename_i h
      have : n / b < n := Nat.div_lt_self (Nat.pos_of_ne_zero fun h0 => h (by rw [h0, Nat.zero_div])) hb
      exact ih (by omega) (by omega) _

theorem toDigits_ten (n : Nat) :
    Nat.toDigits 10 n =
      if n < 10 then [Nat.digitChar n] else Nat.toDigits 10 (n / 10) ++ [Nat.digitChar (n % 10)] := by
  rw [Nat.toDigits, Nat.toDigitsCore]
  split_ifs with h1 h2 h2
  · rw [Nat.mod_eq_of_lt h2]
  · omega
  · omega
  · rw [toDigitsCore_append, Nat.toDigits,
      toDigitsCore_fuel (by decide) (Nat.div_lt_self (by omega) (by decide)) (Nat.lt_succ_self _)]

theorem toDigits_ten_mul_add {m d : Nat} (hm : 0 < m) (hd : d < 10) :
    Nat.toDigits 10 (10 * m + d) = Nat.toDigits 10 m ++ [Nat.digitChar d] := by
  rw [toDigits_ten, if_neg (by omega)]
  congr 3 <;> omega

theorem toDigits_ten_of_lt {d : Nat} (hd : d < 10) : Nat.toDigits 10 d = [Nat.digitChar d] := by
  rw [toDigits_ten, if_pos hd]

/-! ### The value of a digit string -/

theorem digitsValue_append (acc : Nat) (cs ds : List Char) :
    digitsValue acc (cs ++ ds) = digitsValue (digitsValue acc cs) ds := List.foldl_append ..

theorem digitsValue_singleton (acc : Nat) (c : Char) :
    digitsValue acc [c] = 10 * acc + (c.toNat - 48) := rfl

theorem digitsValue_replicate_zero (k : Nat) : digitsValue 0 (List.replicate k '0') = 0 := by
  induction k with
  | zero => rfl
  | succ k ih => rw [List.replicate_succ', digitsValue_append, ih]; rfl

theorem digitsValue_toDigits (n : Nat) : digitsValue 0 (Nat.toDigits 10 n) = n := by
  induction n using Nat.strong_induction_on with
  | _ n ih =>
    rw [toDigits_ten]
    split_ifs with h
    · rw [digitsValue_singleton, toNat_digitChar h]; omega
    · rw [digitsValue_append, ih _ (Nat.div_lt_self (by omega) (by decide)), digitsValue_singleton,
        toNat_digitChar (Nat.mod_lt _ (by decide))]
      omega

theorem all_isDigit_toDigits (n : Nat) : (Nat.toDigits 10 n).all Char.isDigit := by
  induction n using Nat.strong_induction_on with
  | _ n ih =>
    rw [toDigits_ten]
    split_ifs with h
    · simp [isDigit_digitChar h]
    · have h10 : n / 10 < n := Nat.div_lt_self (by omega) (by decide)
      simp only [List.all_append, ih _ h10, List.all_cons, isDigit_digitChar (Nat.mod_lt n (by decide)),
        List.all_nil, Bool.and_self]

theorem toDigits_ne_nil (n : Nat) : Nat.toDigits 10 n ≠ [] := by
  rw [toDigits_ten]; split_ifs <;> simp

theorem eq_replicate_append_toDigits {cs : List Char} (hne : cs ≠ []) (hd : cs.all Char.isDigit) :
    ∃ k, cs = List.replicate k '0' ++ Nat.toDigits 10 (digitsValue 0 cs) := by
  induction cs using List.reverseRecOn with
  | nil => exact absurd rfl hne
  | append_singleton ds c ih =>
    simp only [List.all_append, List.all_cons, List.all_nil, Bool.and_true, Bool.and_eq_true] at hd
    have hc := (isDigit_iff c).1 hd.2
    have hcd : Nat.toDigits 10 (c.toNat - 48) = [c] := by
      rw [toDigits_ten_of_lt (by omega), digitChar_toNat_sub hd.2]
    rw [digitsValue_append, digitsValue_singleton]
    rcases eq_or_ne ds [] with rfl | hds
    · exact ⟨0, by rw [digitsValue, List.foldl_nil, Nat.mul_zero, Nat.zero_add, hcd]; rfl⟩
    obtain ⟨k, hk⟩ := ih hds hd.1
    rcases Nat.eq_zero_or_pos (digitsValue 0 ds) with h0 | hpos
    · rw [h0, Nat.mul_zero, Nat.zero_add, hcd]
      rw [h0, toDigits_ten_of_lt (by decide)] at hk
      exact ⟨k + 1, by rw [hk, List.replicate_succ']; rfl⟩
    · rw [toDigits_ten_mul_add hpos (by omega), digitChar_toNat_sub hd.2]
      exact ⟨k, by rw [← List.append_assoc, ← hk]⟩

/-! ### `str::trim` -/

theorem dropWhile_of_head {p : Char → Bool} {l : List Char} (h : ∀ c ∈ l.head?, p c = false) :
    l.dropWhile p = l := by
  cases l with
  | nil => rfl
  | cons c l => exact List.dropWhile_cons_of_neg (by simp [h c rfl])

theorem trim_split (s : String) :
    ∃ pre post, pre.all isWhitespace ∧ post.all isWhitespace ∧ s.toList = pre ++ (trim s).toList ++ post := by
  have hm := List.takeWhile_append_dropWhile isWhitespace (s.toList.dropWhile isWhitespace).reverse
  refine ⟨s.toList.takeWhile isWhitespace,
    ((s.toList.dropWhile isWhitespace).reverse.takeWhile isWhitespace).reverse,
    List.all_takeWhile, by rw [List.all_reverse]; exact List.all_takeWhile, ?_⟩
  calc s.toList = s.toList.takeWhile isWhitespace ++ s.toList.dropWhile isWhitespace :=
        (List.takeWhile_append_dropWhile _ _).symm
    _ = _ := by
        conv_lhs => rw [← List.reverse_reverse (s.toList.dropWhile isWhitespace), ← hm]
        rw [List.reverse_append, List.append_assoc]; rfl

theorem trim_eq {pre core post : List Char} (hpre : pre.all isWhitespace) (hpost : post.all isWhitespace)
    (hhead : ∀ c ∈ core.head?, isWhitespace c = false) (hlast : ∀ c ∈ core.getLast?, isWhitespace c = false) :
    (trim ⟨pre ++ core ++ post⟩).toList = core := by
  rw [List.all_eq_true] at hpre hpost
  simp only [trim, String.toList, List.append_assoc, List.dropWhile_append_of_pos hpre]
  cases core with
  | nil => simp [List.dropWhile_eq_nil_iff.2 hpost]
  | cons c cs =>
    rw [dropWhile_of_head (l := c :: cs ++ post) (by simpa using hhead), List.reverse_append,
      List.dropWhile_append_of_pos (by simpa using hpost), dropWhile_of_head (l := (c :: cs).reverse) (by rw [List.head?_reverse]; exact hlast),
      List.reverse_reverse]

theorem isWhitespace_of_isDigit {c : Char} (h : c.isDigit = true) : isWhitespace c = false := by
  rw [isDigit_iff] at h
  simp only [isWhitespace, Bool.or_eq_false_iff, Bool.and_eq_false_iff, beq_eq_false_iff_ne,
    decide_eq_false_iff_not]
  omega

/-! ### What `parseUnsigned` accepts -/

theorem toList_toString (n : Nat) : (toString n).toList = Nat.toDigits 10 n := rfl

theorem stripPlus_cases (cs : List Char) : cs = '+' :: stripPlus cs ∨ cs = stripPlus cs := by
  unfold stripPlus; split
  · exact .inl rfl
  · exact .inr rfl

theorem stripPlus_eq_self {cs : List Char} (h : ∀ c ∈ cs.head?, c.isDigit = true) : stripPlus cs = cs := by
  unfold stripPlus; split
  · exact absurd (h '+' rfl) (by decide)
  · rfl

theorem all_isDigit_numeral (k n : Nat) : (List.replicate k '0' ++ Nat.toDigits 10 n).all Char.isDigit := by
  rw [List.all_append, all_isDigit_toDigits, Bool.and_true, List.all_eq_true]
  intro c hc
  rw [List.eq_of_mem_replicate hc]; rfl

theorem digitsValue_numeral (k n : Nat) : digitsValue 0 (List.replicate k '0' ++ Nat.toDigits 10 n) = n := by
  rw [digitsValue_append, digitsValue_replicate_zero, digitsValue_toDigits]

/-- `parseUnsigned bits` reads a decimal numeral, after an optional `+` and leading zeros, whose value
fits in `bits` bits, and nothing else. -/
theorem parseUnsigned_eq_some {bits : Nat} {s : String} {n : Nat} :
    parseUnsigned bits s = some n ↔
      n < 2 ^ bits ∧ ∃ (sign : List Char) (zeros : Nat), (sign = [] ∨ sign = ['+']) ∧
        s.toList = sign ++ List.replicate zeros '0' ++ (toString n).toList := by
  rw [parseUnsigned_eq, toList_toString]
  constructor
  · intro h
    split_ifs at h with h1 h2
    cases h
    simp only [Bool.and_eq_true, Bool.not_eq_true', List.isEmpty_eq_false] at h1
    obtain ⟨k, hk⟩ := eq_replicate_append_toDigits h1.1 h1.2
    refine ⟨h2, ?_⟩
    rcases stripPlus_cases s.toList with hs | hs <;> rw [hk] at hs
    · exact ⟨['+'], k, .inr rfl, hs⟩
    · exact ⟨[], k, .inl rfl, hs⟩
  · rintro ⟨hn, sign, k, hsign, hs⟩
    have hall := all_isDigit_numeral k n
    have hstrip : stripPlus s.toList = List.replicate k '0' ++ Nat.toDigits 10 n := by
      rcases hsign with rfl | rfl <;> rw [hs]
      · exact stripPlus_eq_self fun c hc => List.all_eq_true.1 hall c (List.mem_of_mem_head? hc)
      · rfl
    have hne : (List.replicate k '0' ++ Nat.toDigits 10 n).isEmpty = false := by
      simp [toDigits_ne_nil]
    rw [hstrip, hne, hall, digitsValue_numeral]
    simp [hn]

theorem not_isWhitespace_of_mem_numeral {sign : List Char} (hsign : sign = [] ∨ sign = ['+']) {k n : Nat}
    {c : Char} (hc : c ∈ sign ++ List.replicate k '0' ++ Nat.toDigits 10 n) : isWhitespace c = false := by
  rw [List.append_assoc, List.mem_append] at hc
  rcases hc with hc | hc
  · rcases hsign with rfl | rfl
    · cases hc
    · rw [List.mem_singleton.1 hc]; rfl
  · exact isWhitespace_of_isDigit (List.all_eq_true.1 (all_isDigit_numeral k n) c hc)

/-- What a form field holding `s` gives through `s.trim().parse()`: whitespace around a numeral
as `parseUnsigned_eq_some` has it, and nothing else. -/
theorem parseUnsigned_trim_eq_some {bits : Nat} {s : String} {n : Nat} :
    parseUnsigned bits (trim s) = some n ↔
      n < 2 ^ bits ∧ ∃ (pre post sign : List Char) (zeros : Nat), pre.all isWhitespace ∧
        post.all isWhitespace ∧ (sign = [] ∨ sign = ['+']) ∧
        s.toList = pre ++ (sign ++ List.replicate zeros '0' ++ (toString n).toList) ++ post := by
  rw [parseUnsigned_eq_some]
  constructor
  · rintro ⟨hn, sign, k, hsign, hs⟩
    obtain ⟨pre, post, hpre, hpost, hsplit⟩ := trim_split s
    exact ⟨hn, pre, post, sign, k, hpre, hpost, hsign, by rw [hsplit, hs]⟩
  · rintro ⟨hn, pre, post, sign, k, hpre, hpost, hsign, hs⟩
    refine ⟨hn, sign, k, hsign, ?_⟩
    obtain ⟨l⟩ := s
    change l = _ at hs
    subst hs
    rw [toList_toString] at *
    exact trim_eq hpre hpost (fun c hc => not_isWhitespace_of_mem_numeral hsign (List.mem_of_mem_head? hc))
      (fun c hc => not_isWhitespace_of_mem_numeral hsign (List.mem_of_getLast?_eq_some hc))

example : parseUnsigned 64 (trim " +007\n") = some 7 := by decide
example : parseUnsigned 64 (trim "1,000") = none := by decide

end LdkServerGui.Rust
