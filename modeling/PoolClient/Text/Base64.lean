/-!
# Base64

`encode` writes bytes in the standard alphabet, padded with `=` to groups of four. `decode?`
accepts exactly this canonical form: padding must be there, and the bits that a last partial
group leaves unused must be zero. So what is read is what was written (`decode?_eq_some_iff`).
-/

namespace PoolClient.Text.Base64

/-- The character for a six-bit group. -/
def sextetChar (n : Nat) : Char :=
  if n < 26 then Char.ofNat (65 + n)
  else if n < 52 then Char.ofNat (71 + n)
  else if n < 62 then Char.ofNat (n - 4)
  else if n = 62 then '+' else '/'

/-- The six-bit group that a character stands for. -/
def sextet? (c : Char) : Option Nat :=
  let n := c.toNat
  if 65 ≤ n ∧ n ≤ 90 then some (n - 65)
  else if 97 ≤ n ∧ n ≤ 122 then some (n - 71)
  else if 48 ≤ n ∧ n ≤ 57 then some (n + 4)
  else if c = '+' then some 62
  else if c = '/' then some 63
  else none

/-- The canonical base64 text of some bytes. -/
def encode : List UInt8 → List Char
  | [] => []
  | [a] =>
    [sextetChar (a.toNat / 4), sextetChar (a.toNat % 4 * 16), '=', '=']
  | [a, b] =>
    [sextetChar (a.toNat / 4), sextetChar (a.toNat % 4 * 16 + b.toNat / 16),
      sextetChar (b.toNat % 16 * 4), '=']
  | a :: b :: c :: rest =>
    sextetChar (a.toNat / 4) :: sextetChar (a.toNat % 4 * 16 + b.toNat / 16) ::
      sextetChar (b.toNat % 16 * 4 + c.toNat / 64) :: sextetChar (c.toNat % 64) :: encode rest

/-- One byte, from a last group of two characters. -/
def lastByte? (a b : Char) : Option (List UInt8) :=
  match sextet? a, sextet? b with
  | some x, some y => if y % 16 = 0 then some [UInt8.ofNat (x * 4 + y / 16)] else none
  | _, _ => none

/-- Two bytes, from a last group of three characters. -/
def lastTwoBytes? (a b c : Char) : Option (List UInt8) :=
  match sextet? a, sextet? b, sextet? c with
  | some x, some y, some z =>
    if z % 4 = 0 then
      some [UInt8.ofNat (x * 4 + y / 16), UInt8.ofNat (y % 16 * 16 + z / 4)]
    else none
  | _, _, _ => none

/-- Three bytes, from a full group. -/
def threeBytes? (a b c d : Char) : Option (List UInt8) :=
  match sextet? a, sextet? b, sextet? c, sextet? d with
  | some x, some y, some z, some w =>
    some [UInt8.ofNat (x * 4 + y / 16), UInt8.ofNat (y % 16 * 16 + z / 4),
      UInt8.ofNat (z % 4 * 64 + w)]
  | _, _, _, _ => none

/-- The bytes of a canonical base64 text. -/
def decode? : List Char → Option (List UInt8)
  | [] => some []
  | a :: b :: c :: d :: rest =>
    if rest = [] ∧ d = '=' then
      if c = '=' then lastByte? a b else lastTwoBytes? a b c
    else
      match threeBytes? a b c d, decode? rest with
      | some head, some tail => some (head ++ tail)
      | _, _ => none
  | _ => none

/-! ## Writing and reading -/

theorem sextet?_sextetChar {n : Nat} (h : n < 64) : sextet? (sextetChar n) = some n := by
  have : ∀ i : Fin 64, sextet? (sextetChar i) = some i.val := by decide
  exact this ⟨n, h⟩

theorem sextetChar_ne_pad {n : Nat} (h : n < 64) : sextetChar n ≠ '=' := by
  have : ∀ i : Fin 64, sextetChar i ≠ '=' := by decide
  exact this ⟨n, h⟩

theorem ofNat_toNat_eq {b : UInt8} {n : Nat} (h : n = b.toNat) : UInt8.ofNat n = b := by
  subst h
  exact UInt8.ofNat_toNat

/-- What is written reads back. -/
theorem decode?_encode (bytes : List UInt8) : decode? (encode bytes) = some bytes := by
  fun_induction encode bytes with
  | case1 => rfl
  | case2 a =>
    have ha := a.toNat_lt
    simp only [decode?, true_and, ↓reduceIte, lastByte?]
    rw [sextet?_sextetChar (by omega), sextet?_sextetChar (by omega)]
    simp only [Nat.mul_mod_left, ↓reduceIte, Option.some.injEq, List.cons.injEq, and_true]
    exact ofNat_toNat_eq (by omega)
  | case3 a b =>
    have ha := a.toNat_lt
    have hb := b.toNat_lt
    have hc := sextetChar_ne_pad (n := b.toNat % 16 * 4) (by omega)
    simp only [decode?, true_and, ↓reduceIte, hc, lastTwoBytes?]
    rw [sextet?_sextetChar (by omega), sextet?_sextetChar (by omega),
      sextet?_sextetChar (by omega)]
    simp only [Nat.mul_mod_left, ↓reduceIte, Option.some.injEq, List.cons.injEq, and_true]
    exact ⟨ofNat_toNat_eq (by omega), ofNat_toNat_eq (by omega)⟩
  | case4 a b c rest ih =>
    have ha := a.toNat_lt
    have hb := b.toNat_lt
    have hc := c.toNat_lt
    have hd := sextetChar_ne_pad (n := c.toNat % 64) (by omega)
    simp only [decode?, hd, and_false, ↓reduceIte, threeBytes?, ih]
    rw [sextet?_sextetChar (by omega), sextet?_sextetChar (by omega),
      sextet?_sextetChar (by omega), sextet?_sextetChar (by omega)]
    simp only [List.cons_append, List.nil_append, Option.some.injEq, List.cons.injEq, and_true]
    exact ⟨ofNat_toNat_eq (by omega), ofNat_toNat_eq (by omega), ofNat_toNat_eq (by omega)⟩

/-! ## Reading and writing -/

theorem sextetChar_of_sextet? {c : Char} {n : Nat} (h : sextet? c = some n) :
    n < 64 ∧ sextetChar n = c := by
  have hofNat : ∀ m, m = c.toNat → Char.ofNat m = c := by
    rintro m rfl
    exact c.ofNat_toNat
  simp only [sextet?] at h
  split at h
  · cases h
    refine ⟨by omega, ?_⟩
    rw [sextetChar, if_pos (by omega)]
    exact hofNat _ (by omega)
  split at h
  · cases h
    refine ⟨by omega, ?_⟩
    rw [sextetChar, if_neg (by omega), if_pos (by omega)]
    exact hofNat _ (by omega)
  split at h
  · cases h
    refine ⟨by omega, ?_⟩
    rw [sextetChar, if_neg (by omega), if_neg (by omega), if_pos (by omega)]
    exact hofNat _ (by omega)
  split at h
  · rename_i hc
    cases h
    exact ⟨by decide, hc.symm⟩
  split at h
  · rename_i hc
    cases h
    exact ⟨by decide, hc.symm⟩
  · cases h

theorem toNat_ofNat {n : Nat} (h : n < 256) : (UInt8.ofNat n).toNat = n :=
  UInt8.toNat_ofNat_of_lt' h

theorem encode_of_lastByte? {a b : Char} {bytes : List UInt8} (h : lastByte? a b = some bytes) :
    encode bytes = [a, b, '=', '='] := by
  unfold lastByte? at h
  split at h
  · rename_i x y hx hy
    obtain ⟨hx, rfl⟩ := sextetChar_of_sextet? hx
    obtain ⟨hy, rfl⟩ := sextetChar_of_sextet? hy
    split at h
    · cases h
      rw [encode, toNat_ofNat (by omega), show (x * 4 + y / 16) / 4 = x by omega,
        show (x * 4 + y / 16) % 4 * 16 = y by omega]
    · cases h
  · cases h

theorem encode_of_lastTwoBytes? {a b c : Char} {bytes : List UInt8}
    (h : lastTwoBytes? a b c = some bytes) : encode bytes = [a, b, c, '='] := by
  unfold lastTwoBytes? at h
  split at h
  · rename_i x y z hx hy hz
    obtain ⟨hx, rfl⟩ := sextetChar_of_sextet? hx
    obtain ⟨hy, rfl⟩ := sextetChar_of_sextet? hy
    obtain ⟨hz, rfl⟩ := sextetChar_of_sextet? hz
    split at h
    · cases h
      rw [encode, toNat_ofNat (by omega), toNat_ofNat (by omega),
        show (x * 4 + y / 16) / 4 = x by omega,
        show (x * 4 + y / 16) % 4 * 16 + (y % 16 * 16 + z / 4) / 16 = y by omega,
        show (y % 16 * 16 + z / 4) % 16 * 4 = z by omega]
    · cases h
  · cases h

theorem encode_of_threeBytes? {a b c d : Char} {head : List UInt8}
    (h : threeBytes? a b c d = some head) (tail : List UInt8) :
    encode (head ++ tail) = a :: b :: c :: d :: encode tail := by
  unfold threeBytes? at h
  split at h
  · rename_i x y z w hx hy hz hw
    obtain ⟨hx, rfl⟩ := sextetChar_of_sextet? hx
    obtain ⟨hy, rfl⟩ := sextetChar_of_sextet? hy
    obtain ⟨hz, rfl⟩ := sextetChar_of_sextet? hz
    obtain ⟨hw, rfl⟩ := sextetChar_of_sextet? hw
    cases h
    rw [List.cons_append, List.cons_append, List.cons_append, List.nil_append, encode,
      toNat_ofNat (by omega), toNat_ofNat (by omega), toNat_ofNat (by omega),
      show (x * 4 + y / 16) / 4 = x by omega,
      show (x * 4 + y / 16) % 4 * 16 + (y % 16 * 16 + z / 4) / 16 = y by omega,
      show (y % 16 * 16 + z / 4) % 16 * 4 + (z % 4 * 64 + w) / 64 = z by omega,
      show (z % 4 * 64 + w) % 64 = w by omega]
  · cases h

/-- What can be read is the canonical text of the bytes. -/
theorem encode_of_decode? {cs : List Char} {bytes : List UInt8} (h : decode? cs = some bytes) :
    encode bytes = cs := by
  fun_induction decode? cs generalizing bytes with
  | case1 =>
    cases h
    rfl
  | case2 a b d rest hlast =>
    obtain ⟨rfl, rfl⟩ := hlast
    exact encode_of_lastByte? h
  | case3 a b c d rest hlast hc =>
    obtain ⟨rfl, rfl⟩ := hlast
    exact encode_of_lastTwoBytes? h
  | case4 a b c d rest hlast head tail htail hhead ih =>
    cases h
    rw [encode_of_threeBytes? hhead, ih htail]
  | case5 => cases h
  | case6 => cases h

theorem decode?_eq_some_iff {cs : List Char} {bytes : List UInt8} :
    decode? cs = some bytes ↔ cs = encode bytes := by
  constructor
  · exact fun h => (encode_of_decode? h).symm
  · rintro rfl
    exact decode?_encode bytes

end PoolClient.Text.Base64
