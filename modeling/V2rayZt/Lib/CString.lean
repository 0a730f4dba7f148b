import Mathlib.Data.List.Basic
import Mathlib.Data.Nat.Digits.Lemmas

/-! `strtok_r` and `strtoul` of the C library on the characters before a string's NUL, and the
text they read back. Nothing here names a particular program. -/
namespace V2rayZt.CString
variable {α β : Type*}

/-! ### `strtok_r` -/

/-- One call of `strtok_r` on the rest of the string: skip delimiters, give
`NULL` if nothing is left, and otherwise cut the token at the next delimiter,
which is overwritten, so that the rest starts after it. -/
def strtokR (delim : α → Bool) (s : List α) : Option (List α × List α) :=
  match s.dropWhile delim with
  | [] => none
  | t => some (t.takeWhile (fun c => !delim c),(t.dropWhile fun c => !delim c).drop 1)

/-- `for (s = strtok_r(str,...); s && b < n; s = strtok_r(NULL,...)) a[b++] = f(s)`:
the values of at most `n` tokens, in order. -/
def stokLoop (delim : α → Bool) (f : List α → β) : Nat → List α → List β
  | 0, _ => []
  | n + 1, s =>
    match strtokR delim s with
    | none => []
    | some (tok,rest) => f tok :: stokLoop delim f n rest

section Tokens
variable {delim : α → Bool} {f : List α → β}

/-- A token: nonempty and free of delimiters. -/
def IsToken (delim : α → Bool) (t : List α) : Prop := t ≠ [] ∧ ∀ c ∈ t, delim c = false

@[simp] theorem strtokR_nil : strtokR delim [] = none := rfl

@[simp] theorem stokLoop_nil (n : Nat) : stokLoop delim f n [] = [] := by
  cases n <;> rfl

theorem length_stokLoop_le (n : Nat) (s : List α) : (stokLoop delim f n s).length ≤ n := by
  induction n generalizing s with
  | zero => simp [stokLoop]
  | succ n ih =>
    unfold stokLoop
    split
    · simp
    · simpa using ih _

/-- A token at the front is cut off whole. -/
theorem strtokR_token_append {t : List α} (ht : IsToken delim t) (rest : List α) :
    strtokR delim (t ++ rest) = some (t ++ rest.takeWhile (fun c => !delim c),
      (rest.dropWhile fun c => !delim c).drop 1) := by
  obtain ⟨a,t',rfl⟩ := List.exists_cons_of_ne_nil ht.1
  have hnd : ∀ c ∈ a :: t', (!delim c) = true := fun c hc => by simp [ht.2 c hc]
  have hdrop : (a :: t' ++ rest).dropWhile delim = a :: t' ++ rest := by
    rw [List.cons_append,List.dropWhile_cons_of_neg (by simp [ht.2 a List.mem_cons_self])]
  rw [strtokR,hdrop,List.cons_append]
  simp only
  rw [← List.cons_append,List.takeWhile_append_of_pos hnd,List.dropWhile_append_of_pos hnd]

/-- A token followed by a delimiter. -/
theorem strtokR_token_delim {t : List α} (ht : IsToken delim t) {d : α} (hd : delim d = true) (rest : List α) :
    strtokR delim (t ++ d :: rest) = some (t,rest) := by
  rw [strtokR_token_append ht,List.takeWhile_cons_of_neg (by simp [hd]),
    List.dropWhile_cons_of_neg (by simp [hd]),List.append_nil,List.drop_one,List.tail_cons]

/-- A token that ends the string. -/
theorem strtokR_token {t : List α} (ht : IsToken delim t) : strtokR delim t = some (t,[]) := by
  have h := strtokR_token_append ht []
  rwa [List.append_nil,List.takeWhile_nil,List.dropWhile_nil,List.append_nil] at h

/-- Tokens joined by one delimiter are read back, as many as the loop allows. -/
theorem stokLoop_intercalate {d : α} (hd : delim d = true) :
    ∀ {n : Nat} {ts : List (List α)}, ts.length ≤ n → (∀ t ∈ ts, IsToken delim t) →
      stokLoop delim f n ([d].intercalate ts) = ts.map f
  | _, [], _, _ => by simp
  | n + 1, [t], _, hts => by
    rw [List.intercalate_singleton,stokLoop,strtokR_token (hts t List.mem_cons_self)]
    simp
  | n + 1, t :: t' :: ts, hlen, hts => by
    rw [List.intercalate_cons_cons,List.append_assoc,List.singleton_append,stokLoop,
      strtokR_token_delim (hts t List.mem_cons_self) hd]
    dsimp only
    rw [stokLoop_intercalate hd (by simpa using hlen) (fun u hu => hts u (List.mem_cons_of_mem t hu))]
    rfl
  | 0, _ :: _, hlen, _ => by simp at hlen

/-- Every value the loop gives is the value of some token. -/
theorem mem_stokLoop {x : β} : ∀ {n : Nat} {s : List α}, x ∈ stokLoop delim f n s → ∃ t, f t = x
  | 0, _, h => by simp [stokLoop] at h
  | n + 1, s, h => by
    unfold stokLoop at h
    split at h
    · simp at h
    · rename_i tok rest _
      rcases List.mem_cons.1 h with rfl | h
      · exact ⟨tok,rfl⟩
      · exact mem_stokLoop h

/-- A character of tokens joined by `sep` is in `sep` or in one of them. -/
theorem mem_intercalate {sep : List α} {c : α} :
    ∀ {ts : List (List α)}, c ∈ sep.intercalate ts → c ∈ sep ∨ ∃ t ∈ ts, c ∈ t
  | [], h => by simp at h
  | [t], h => Or.inr ⟨t,List.mem_singleton_self t,by rwa [List.intercalate_singleton] at h⟩
  | t :: t' :: ts, h => by
    rw [List.intercalate_cons_cons,List.mem_append,List.mem_append] at h
    rcases h with (h | h) | h
    · exact Or.inr ⟨t,List.mem_cons_self,h⟩
    · exact Or.inl h
    · rcases mem_intercalate h with h | ⟨u,hu,hc⟩
      · exact Or.inl h
      · exact Or.inr ⟨u,List.mem_cons_of_mem t hu,hc⟩

/-- Tokens of at most `k` characters joined by `sep` take at most
`k + sep.length` characters each. -/
theorem length_intercalate_le {sep : List α} {k : Nat} :
    ∀ {ts : List (List α)}, (∀ t ∈ ts, t.length ≤ k) → (sep.intercalate ts).length ≤ ts.length * (k + sep.length)
  | [], _ => by simp
  | [t], h => by
    rw [List.intercalate_singleton,List.length_singleton,Nat.one_mul]
    have := h t (List.mem_singleton_self t)
    omega
  | t :: t' :: ts, h => by
    rw [List.intercalate_cons_cons,List.length_append,List.length_append,List.length_cons,Nat.succ_mul]
    have ht := h t List.mem_cons_self
    have ih : (sep.intercalate (t' :: ts)).length ≤ (t' :: ts).length * (k + sep.length) :=
      length_intercalate_le fun u hu => h u (List.mem_cons_of_mem t hu)
    omega

end Tokens

/-! ### `strtoul` -/

/-- `isspace` in the "C" locale. -/
def isSpace (c : Char) : Bool :=
  c == ' ' || c == '\t' || c == '\n' || c == '\x0b' || c == '\x0c' || c == '\r'

/-- The value of `c` as a digit of `base`: the decimal digits, then the
letters of either case from 10 on. -/
def digitVal (base : Nat) (c : Char) : Option Nat :=
  let v :=
    if c.isDigit then c.toNat - '0'.toNat
    else if c.isLower then c.toNat - 'a'.toNat + 10
    else if c.isUpper then c.toNat - 'A'.toNat + 10
    else base
  if v < base then some v else none

/-- The value of the longest run of digits at the front, most significant
first, after `acc`. -/
def digitsValue (base acc : Nat) : List Char → Nat
  | [] => acc
  | c :: cs =>
    match digitVal base c with
    | some v => digitsValue base (base * acc + v) cs
    | none => acc

/-- For base 16 a leading `0x` or `0X` is skipped. -/
def skipHexPrefix (base : Nat) : List Char → List Char
  | '0' :: x :: cs => if base = 16 ∧ (x = 'x' ∨ x = 'X') then cs else '0' :: x :: cs
  | cs => cs

/-- `strtoul(s, NULL, base)` with a `w`-bit `unsigned long`. -/
def strtoul (w base : Nat) (s : List Char) : Nat :=
  let (neg,s) : Bool × List Char :=
    match s.dropWhile isSpace with
    | '-' :: cs => (true,cs)
    | '+' :: cs => (false,cs)
    | cs => (false,cs)
  let v := digitsValue base 0 (skipHexPrefix base s)
  if 2^w ≤ v then 2^w - 1 else if neg then (2^w - v) % 2^w else v

theorem digitVal_of_isDigit {c : Char} (hc : c.isDigit = true) : digitVal 10 c = some (c.toNat - '0'.toNat) := by
  have hlt : c.toNat - '0'.toNat < 10 := by
    have hc' := hc
    simp only [Char.isDigit,Bool.and_eq_true,decide_eq_true_eq,ge_iff_le,UInt32.le_iff_toNat_le] at hc'
    -- a character's code point is its `val`, so `omega` sees the bounds
    have hval : c.val.toNat = c.toNat := rfl
    have h0 : ('0' : Char).val.toNat = 48 := rfl
    have h9 : ('9' : Char).val.toNat = 57 := rfl
    have h0' : ('0' : Char).toNat = 48 := rfl
    omega
  simp only [digitVal,hc,if_true]
  exact if_pos hlt

/-- On decimal digits the loop is `Nat.ofDigitChars`. -/
theorem digitsValue_ten {cs : List Char} (hcs : ∀ c ∈ cs, c.isDigit = true) (acc : Nat) :
    digitsValue 10 acc cs = Nat.ofDigitChars 10 cs acc := by
  induction cs generalizing acc with
  | nil => rfl
  | cons c cs ih =>
    rw [digitsValue,digitVal_of_isDigit (hcs c List.mem_cons_self)]
    simp only
    rw [ih (fun x hx => hcs x (List.mem_cons_of_mem c hx))]
    rfl

/-- Text that starts with a digit of the base has no white space, sign or
`0x` to skip. -/
theorem strtoul_of_digit_head {w base : Nat} {c : Char} {cs : List Char} (hc : ∃ v, digitVal base c = some v)
    (hx : ∀ x cs', cs = x :: cs' → x ≠ 'x' ∧ x ≠ 'X') :
    strtoul w base (c :: cs) =
      let v := digitsValue base 0 (c :: cs)
      if 2^w ≤ v then 2^w - 1 else v := by
  -- white space and the signs are no digits of any base
  have hnot : ∀ d ∈ [' ','\t','\n','\x0b','\x0c','\r','-','+'], digitVal base d = none := by
    intro d hd
    simp only [List.mem_cons,List.not_mem_nil,or_false] at hd
    rcases hd with rfl | rfl | rfl | rfl | rfl | rfl | rfl | rfl <;> simp [digitVal]
  obtain ⟨v,hv⟩ := hc
  have hsp : isSpace c = false := by
    cases h : isSpace c with
    | false => rfl
    | true =>
      simp only [isSpace,Bool.or_eq_true,beq_iff_eq] at h
      rcases h with (((((rfl | rfl) | rfl) | rfl) | rfl) | rfl) <;> simp [hnot] at hv
  have hskip : skipHexPrefix base (c :: cs) = c :: cs := by
    unfold skipHexPrefix
    split
    · rename_i x cs' heq
      obtain ⟨rfl,rfl⟩ := List.cons.inj heq
      obtain ⟨h1,h2⟩ := hx x cs' rfl
      simp [h1,h2]
    · rfl
  simp only [strtoul,List.dropWhile_cons_of_neg (p := isSpace) (a := c) (by simp [hsp])]
  split
  · rename_i heq
    rw [(List.cons.inj heq).1,hnot '-' (by simp)] at hv
    exact absurd hv (by simp)
  · rename_i heq
    rw [(List.cons.inj heq).1,hnot '+' (by simp)] at hv
    exact absurd hv (by simp)
  · simp [hskip]

/-- Digits of the base whose value fits are read as that value. -/
theorem strtoul_eq_digitsValue {w base : Nat} {c : Char} {cs : List Char} (hc : ∃ v, digitVal base c = some v)
    (hx : ∀ x cs', cs = x :: cs' → x ≠ 'x' ∧ x ≠ 'X') (hlt : digitsValue base 0 (c :: cs) < 2^w) :
    strtoul w base (c :: cs) = digitsValue base 0 (c :: cs) := by
  rw [strtoul_of_digit_head hc hx]
  exact if_neg (not_le.2 hlt)

/-- `strtoul` in base 10 reads what `Nat.toDigits` writes. -/
theorem strtoul_toDigits {w n : Nat} (hn : n < 2^w) : strtoul w 10 (Nat.toDigits 10 n) = n := by
  have hdig : ∀ c ∈ Nat.toDigits 10 n, c.isDigit = true :=
    fun _ hc => Nat.isDigit_of_mem_toDigits (by decide) (by decide) hc
  obtain ⟨c,cs,hcs⟩ := List.exists_cons_of_ne_nil (Nat.toDigits_ne_nil (n := n) (b := 10))
  have hx : ∀ x cs', cs = x :: cs' → x ≠ 'x' ∧ x ≠ 'X' := by
    rintro x cs' rfl
    have hxd := hdig x (by rw [hcs]; simp)
    constructor <;> (rintro rfl; exact absurd hxd (by decide))
  have hval : digitsValue 10 0 (Nat.toDigits 10 n) = n := by
    rw [digitsValue_ten hdig,Nat.ofDigitChars_toDigits (by decide) (by decide)]
  rw [hcs,strtoul_eq_digitsValue ⟨_,digitVal_of_isDigit (hdig c (by rw [hcs]; simp))⟩ hx (by rwa [← hcs,hval]),
    ← hcs,hval]

end V2rayZt.CString
