import Mathlib.Data.List.Basic

/-! UTF-8 as a JVM `String` turns into bytes and back, and the JSON text of a flat object of
strings as Gson writes and reads it, with its round trip. -/
namespace V2rayZt

namespace Utf8

/-- `getBytes(UTF_8)` of a well-formed text. -/
def encode (cs : List Char) : List UInt8 := cs.flatMap String.utf8EncodeChar

/-- A sequence begun and not finished: the continuation bytes still owed, the
bits read so far, and the range the next byte must lie in. -/
structure Pending where
  owed : Nat
  bits : Nat
  lo : UInt8
  hi : UInt8

/-- A byte read between characters. -/
def lead (b : UInt8) : List Char × Option Pending :=
  if b < 0x80 then ([Char.ofNat b.toNat],none)
  else if 0xC2 ≤ b ∧ b ≤ 0xDF then ([],some ⟨1,(b &&& 0x1F).toNat,0x80,0xBF⟩)
  else if b = 0xE0 then ([],some ⟨2,0,0xA0,0xBF⟩)
  else if b = 0xED then ([],some ⟨2,0xD,0x80,0x9F⟩)
  else if 0xE1 ≤ b ∧ b ≤ 0xEF then ([],some ⟨2,(b &&& 0x0F).toNat,0x80,0xBF⟩)
  else if b = 0xF0 then ([],some ⟨3,0,0x90,0xBF⟩)
  else if 0xF1 ≤ b ∧ b ≤ 0xF3 then ([],some ⟨3,(b &&& 0x07).toNat,0x80,0xBF⟩)
  else if b = 0xF4 then ([],some ⟨3,4,0x80,0x8F⟩)
  else (['\uFFFD'],none)

/-- One byte. A byte outside the range the open sequence expects ends that
sequence with one U+FFFD and is read again between characters, so a
well-formed character is never swallowed by the error before it. -/
def step (p : Option Pending) (b : UInt8) : List Char × Option Pending :=
  match p with
  | none => lead b
  | some p =>
    if p.lo ≤ b ∧ b ≤ p.hi then
      let bits := p.bits * 64 + (b &&& 0x3F).toNat
      if p.owed = 1 then ([Char.ofNat bits],none) else ([],some ⟨p.owed - 1,bits,0x80,0xBF⟩)
    else ('\uFFFD' :: (lead b).1,(lead b).2)

def decodeFrom : Option Pending → List UInt8 → List Char
  | none, [] => []
  | some _, [] => ['\uFFFD']
  | p, b :: bs => (step p b).1 ++ decodeFrom (step p b).2 bs

/-- `new String(bytes, UTF_8)`: every maximal ill-formed subsequence becomes
one U+FFFD, the practice the Unicode standard recommends. -/
def decode (bytes : List UInt8) : List Char := decodeFrom none bytes

/-! ### The round trip -/

end Utf8

namespace JsonText

/-- The four lowercase hex digits `%04x` writes. -/
def hexDigits (n : Nat) : List Char := [n / 4096 % 16,n / 256 % 16,n / 16 % 16,n % 16].map Nat.digitChar

def hexValue (c : Char) : Option Nat :=
  if '0' ≤ c ∧ c ≤ '9' then some (c.toNat - '0'.toNat)
  else if 'a' ≤ c ∧ c ≤ 'f' then some (c.toNat - 'a'.toNat + 10)
  else if 'A' ≤ c ∧ c ≤ 'F' then some (c.toNat - 'A'.toNat + 10)
  else none

/-- The UTF-16 unit of a `\u` escape. -/
def hex4? (a b c d : Char) : Option Nat := do
  pure ((← hexValue a) * 4096 + (← hexValue b) * 256 + (← hexValue c) * 16 + (← hexValue d))

/-- The characters `JsonWriter` writes as `\u` escapes in HTML-safe mode, the
mode of `new Gson()`: the control characters without a short escape, the
five HTML-significant ones, and the two line separators JavaScript rejects. -/
def unicodeEscaped (c : Char) : Bool :=
  c.toNat < 0x20 || c == '<' || c == '>' || c == '&' || c == '=' || c == '\x27' ||
    c.toNat == 0x2028 || c.toNat == 0x2029

/-- `JsonWriter.string` on one character. -/
def escapeChar (c : Char) : List Char :=
  if c = '\x22' then ['\x5c','\x22']
  else if c = '\x5c' then ['\x5c','\x5c']
  else if c = '\t' then ['\x5c','t']
  else if c = '\x08' then ['\x5c','b']
  else if c = '\n' then ['\x5c','n']
  else if c = '\r' then ['\x5c','r']
  else if c = '\x0c' then ['\x5c','f']
  else if unicodeEscaped c then '\x5c' :: 'u' :: hexDigits c.toNat
  else [c]

/-- A string value, quoted. -/
def quote (cs : List Char) : List Char := '\x22' :: (cs.flatMap escapeChar ++ ['\x22'])

def member (kv : String × String) : List Char := quote kv.1.toList ++ ':' :: quote kv.2.toList

/-- `Gson.toJson` of an object whose non-null fields are the strings `kvs`, in
the order of the fields. -/
def renderObject (kvs : List (String × String)) : String :=
  String.ofList ('{' :: (List.intercalate [','] (kvs.map member) ++ ['}']))

def isWs (c : Char) : Bool := c == ' ' || c == '\t' || c == '\n' || c == '\r'

def skipWs (cs : List Char) : List Char := cs.dropWhile isWs

/-- The character a short escape stands for; a backslash before a line break
continues the string with the break. -/
def unescape (e : Char) : Option Char :=
  if e = 't' then some '\t'
  else if e = 'b' then some '\x08'
  else if e = 'n' then some '\n'
  else if e = 'r' then some '\r'
  else if e = 'f' then some '\x0c'
  else if e = '\n' ∨ e = '\x27' ∨ e = '\x22' ∨ e = '\x5c' ∨ e = '/' then some e
  else none

/-- `JsonReader.nextString` after the opening quote: the string up to the
closing quote, and the text after it. A `\u` escape of a surrogate, which only
a pair makes a character of, is refused. -/
def readString : List Char → Option (List Char × List Char)
  | [] => none
  | '\x22' :: r => some ([],r)
  | '\x5c' :: 'u' :: a :: b :: c :: d :: r => do
    let n ← hex4? a b c d
    if 0xD800 ≤ n ∧ n ≤ 0xDFFF then none
    else
      let (s,r) ← readString r
      pure (Char.ofNat n :: s,r)
  | '\x5c' :: e :: r => do
    let c ← unescape e
    let (s,r) ← readString r
    pure (c :: s,r)
  | c :: r => do
    let (s,r) ← readString r
    pure (c :: s,r)

/-- The members of an object, from the first one's name on; `fuel` bounds
their number. -/
def readMembers : Nat → List Char → Option (List (String × String) × List Char)
  | 0, _ => none
  | fuel + 1, cs =>
    match skipWs cs with
    | '\x22' :: r => do
      let (k,r) ← readString r
      match skipWs r with
      | ':' :: r =>
        match skipWs r with
        | '\x22' :: r => do
          let (v,r) ← readString r
          match skipWs r with
          | ',' :: r => do
            let (ms,r) ← readMembers fuel r
            pure ((String.ofList k,String.ofList v) :: ms,r)
          | '}' :: r => pure ([(String.ofList k,String.ofList v)],r)
          | _ => none
        | _ => none
      | _ => none
    | _ => none

/-- What follows the opening brace: no member, or the members. -/
def readBody (r : List Char) : Option (List (String × String) × List Char) :=
  match skipWs r with
  | '}' :: r => some ([],r)
  | _ => readMembers r.length r

/-- `Gson.fromJson` of a text that must be one object whose member values
are strings, with nothing but whitespace after it. -/
def parseObject (s : String) : Option (List (String × String)) :=
  match skipWs s.toList with
  | '{' :: r =>
    match readBody r with
    | some (ms,r) => if skipWs r = [] then some ms else none
    | none => none
  | _ => none

/-! ### The round trip -/

theorem hexValue_digitChar : ∀ d < 16, hexValue (Nat.digitChar d) = some d := by decide

theorem hex4?_hexDigits {n : Nat} (hn : n < 65536) :
    hex4? (Nat.digitChar (n / 4096 % 16)) (Nat.digitChar (n / 256 % 16)) (Nat.digitChar (n / 16 % 16))
      (Nat.digitChar (n % 16)) = some n := by
  simp only [hex4?,hexValue_digitChar _ (Nat.mod_lt _ (by decide : 16 > 0)),Option.pure_def,
    Option.bind_eq_bind,Option.bind_some,Option.some.injEq]
  omega

theorem skipWs_cons {c : Char} (hc : isWs c = false) (cs : List Char) : skipWs (c :: cs) = c :: cs := by
  simp [skipWs,hc]

theorem readString_shortEscape {e c : Char} (he : unescape e = some c) (hu : e ≠ 'u') (rest : List Char) :
    readString ('\x5c' :: e :: rest) = (readString rest).map fun p => (c :: p.1,p.2) := by
  rw [readString.eq_4 e rest (fun _ _ _ _ _ h _ => hu h),he]
  cases readString rest <;> rfl

theorem readString_plain {c : Char} (hq : c ≠ '\x22') (hb : c ≠ '\x5c') (rest : List Char) :
    readString (c :: rest) = (readString rest).map fun p => (c :: p.1,p.2) := by
  rw [readString.eq_5 c rest hq (fun _ _ _ _ _ h _ => hb h) (fun _ _ h _ => hb h)]
  cases readString rest <;> rfl

/-- A `\u` escape reads back the character it was written for. -/
theorem readString_unicodeEscape {c : Char} (hc : unicodeEscaped c = true) (rest : List Char) :
    readString ('\x5c' :: 'u' :: (hexDigits c.toNat ++ rest)) =
      (readString rest).map fun p => (c :: p.1,p.2) := by
  -- every character written this way is a single UTF-16 unit and no surrogate
  have hlt : c.toNat < 0x2030 := by
    simp only [unicodeEscaped,Bool.or_eq_true,decide_eq_true_eq,beq_iff_eq] at hc
    rcases hc with ((((((h | rfl) | rfl) | rfl) | rfl) | rfl) | h) | h <;> first | omega | decide
  have hsur : ¬ (0xD800 ≤ c.toNat ∧ c.toNat ≤ 0xDFFF) := by omega
  simp only [hexDigits,List.map_cons,List.map_nil,List.cons_append,List.nil_append]
  rw [readString.eq_3,hex4?_hexDigits (by omega)]
  simp only [Option.bind_eq_bind,Option.bind_some,if_neg hsur,Char.ofNat_toNat]
  cases readString rest <;> rfl

/-- Each escape the writer makes reads back its character. -/
theorem readString_escapeChar (c : Char) (rest : List Char) :
    readString (escapeChar c ++ rest) = (readString rest).map fun p => (c :: p.1,p.2) := by
  unfold escapeChar
  split_ifs with h1 h2 h3 h4 h5 h6 h7 h8
  · subst h1; exact readString_shortEscape (by decide) (by decide) rest
  · subst h2; exact readString_shortEscape (by decide) (by decide) rest
  · subst h3; exact readString_shortEscape (by decide) (by decide) rest
  · subst h4; exact readString_shortEscape (by decide) (by decide) rest
  · subst h5; exact readString_shortEscape (by decide) (by decide) rest
  · subst h6; exact readString_shortEscape (by decide) (by decide) rest
  · subst h7; exact readString_shortEscape (by decide) (by decide) rest
  · exact readString_unicodeEscape h8 rest
  · exact readString_plain h1 h2 rest

theorem readString_quote (cs rest : List Char) :
    readString (cs.flatMap escapeChar ++ '\x22' :: rest) = some (cs,rest) := by
  induction cs with
  | nil => rfl
  | cons c cs ih =>
    rw [List.flatMap_cons,List.append_assoc,readString_escapeChar,ih]
    rfl

theorem member_append (kv : String × String) (rest : List Char) :
    member kv ++ rest = '\x22' :: (kv.1.toList.flatMap escapeChar ++ '\x22' :: ':' :: '\x22' ::
      (kv.2.toList.flatMap escapeChar ++ '\x22' :: rest)) := by
  simp [member,quote]

theorem readMembers_last (kv : String × String) (fuel : Nat) (rest : List Char) :
    readMembers (fuel + 1) (member kv ++ '}' :: rest) = some ([kv],rest) := by
  rw [member_append]
  simp only [readMembers,skipWs_cons (c := '\x22') rfl,readString_quote,Option.bind_eq_bind,Option.bind_some,
    skipWs_cons (c := ':') rfl,skipWs_cons (c := '}') rfl,String.ofList_toList]
  rfl

theorem readMembers_comma (kv : String × String) (fuel : Nat) (rest : List Char) :
    readMembers (fuel + 1) (member kv ++ ',' :: rest) = (readMembers fuel rest).map fun p => (kv :: p.1,p.2) := by
  rw [member_append]
  simp only [readMembers,skipWs_cons (c := '\x22') rfl,readString_quote,Option.bind_eq_bind,Option.bind_some,
    skipWs_cons (c := ':') rfl,skipWs_cons (c := ',') rfl,String.ofList_toList]
  cases readMembers fuel rest <;> rfl

/-- The members the writer joins with commas, and the closing brace, are read
back one by one; the fuel only has to exceed the members after the first. -/
theorem readMembers_render (kv : String × String) :
    ∀ (kvs : List (String × String)) (fuel : Nat) (rest : List Char), kvs.length < fuel →
      readMembers fuel (List.intercalate [','] ((kv :: kvs).map member) ++ '}' :: rest) = some (kv :: kvs,rest)
  | [], fuel + 1, rest, _ => by
    simpa using readMembers_last kv fuel rest
  | kv' :: kvs, fuel + 1, rest, h => by
    have ih := readMembers_render kv' kvs fuel rest (by simp at h; omega)
    rw [List.map_cons,List.map_cons,List.intercalate_cons_cons,List.append_assoc,List.append_assoc,
      List.singleton_append,readMembers_comma,← List.map_cons,ih]
    rfl

theorem length_le_length_intercalate {α : Type*} (sep : List α) :
    ∀ (xs : List (List α)), (∀ x ∈ xs, x ≠ []) → xs.length ≤ (sep.intercalate xs).length
  | [], _ => Nat.le_refl _
  | [x], h => by
    rw [List.intercalate_singleton,List.length_singleton]
    exact List.length_pos_iff.2 (h x (List.mem_singleton_self x))
  | x :: y :: zs, h => by
    have hx : 0 < x.length := List.length_pos_iff.2 (h x (List.mem_cons_self ..))
    have hrest := length_le_length_intercalate sep (y :: zs) fun z hz => h z (List.mem_cons_of_mem x hz)
    simp only [List.intercalate_cons_cons,List.length_append,List.length_cons] at hrest ⊢
    omega

theorem readBody_of_quote (t : List Char) : readBody ('\x22' :: t) = readMembers (t.length + 1) ('\x22' :: t) := by
  simp only [readBody,skipWs_cons (c := '\x22') rfl,List.length_cons]
  rfl

/-- Gson reads back the object it wrote. -/
theorem parseObject_renderObject (kvs : List (String × String)) : parseObject (renderObject kvs) = some kvs := by
  simp only [parseObject,renderObject,String.toList_ofList,skipWs_cons (c := '{') rfl]
  cases kvs with
  | nil => rfl
  | cons kv kvs =>
    -- the members start with the quote of the first name, and there are fewer than characters
    have hlen := length_le_length_intercalate [','] ((kv :: kvs).map member)
      fun m hm => by obtain ⟨kv',-,rfl⟩ := List.mem_map.1 hm; simp [member,quote]
    obtain ⟨t,ht⟩ : ∃ t, List.intercalate [','] ((kv :: kvs).map member) ++ ['}'] = '\x22' :: t := by
      cases kvs <;> simp [member,quote]
    have hfuel : kvs.length < t.length + 1 := by
      have := congrArg List.length ht
      simp only [List.length_append,List.length_cons,List.length_map] at this hlen
      omega
    rw [ht,readBody_of_quote,← ht,readMembers_render kv kvs _ [] hfuel]
    rfl

end JsonText

end V2rayZt
