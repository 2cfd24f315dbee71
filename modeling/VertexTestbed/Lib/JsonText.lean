import VertexTestbed.Lib.JsonModel

/-!
# The text of a JSON document

A JSON value is written compactly, in printable ASCII, with every other character escaped (`dump`),
and a text is read back into a value (`loads`). Texts are lists of characters.

Floats are written and read by a parameter, `NumberText`, which also says how many digits of an
integer the interpreter converts: on more of them `loads` raises a plain `ValueError`, and not the
`JSONDecodeError` of a text that is no JSON (`LoadsError`).

An integer that is not converted is not written either: `json.dumps` raises there, and no result is
about what `dump` has in its place (`Json.Valid`).

Left out: the `RecursionError` of a text nested too deep for the stack, the names `NaN`, `Infinity`
and `-Infinity`, which are no numbers here, and strings that are no sequence of scalar values, so
that an escape for half of a surrogate pair on its own is refused.

* `loads_dump`: reading undoes writing, for a value whose numbers are written and read back and
  whose objects have each key once;
* `printable_dump`: what is written is printable, so it has no newline and one byte a character.
-/

namespace VertexTestbed.JsonText

/-! ### Numbers -/

/-- What a number is written with. -/
def isNumberChar (c : Char) : Bool :=
  c.isDigit || c = '-' || c = '+' || c = '.' || c = 'e' || c = 'E'

/-- What tells a float from an integer. -/
def isFractionChar (c : Char) : Bool :=
  c = '.' || c = 'e' || c = 'E'

/-- The texts of numbers. `repr` writes a float, and `float` reads a number that has a fraction or
an exponent, `none` when it is not well formed; their laws are asked of finite floats only.
`max_digits` is `sys.get_int_max_str_digits()`, which is no lower than 640, or `none` for the `0`
that stands for no limit. -/
structure NumberText (K : Type) where
  finite : K → Prop
  repr : K → List Char
  float : List Char → Option K
  max_digits : Option ℕ
  float_repr : ∀ x, finite x → float (repr x) = some x
  repr_number : ∀ x, finite x → ∀ c ∈ repr x, isNumberChar c = true
  repr_fraction : ∀ x, finite x → (repr x).any isFractionChar = true
  repr_short : ∀ x, finite x → (repr x).length ≤ 640
  max_digits_ge : ∀ d ∈ max_digits, 640 ≤ d

variable {K : Type} (F : NumberText K)

/-- The interpreter converts an integer to its digits, and back. -/
def NumberText.Converts (n : ℤ) : Prop :=
  ∀ d ∈ F.max_digits, (Nat.toDigits 10 n.natAbs).length ≤ d

/-- It converts every number that is short enough for any limit. -/
theorem NumberText.converts_of_short {n : ℤ} (h : (Nat.toDigits 10 n.natAbs).length ≤ 640) :
    F.Converts n :=
  fun d hd ↦ h.trans (F.max_digits_ge d hd)

/-! ### Writing -/

/-- `{0:04x}`. -/
def hex4 (n : ℕ) : List Char :=
  [Nat.digitChar (n / 4096 % 16), Nat.digitChar (n / 256 % 16), Nat.digitChar (n / 16 % 16),
    Nat.digitChar (n % 16)]

/-- One character of a string, as it is written. -/
def escapeChar (c : Char) : List Char :=
  if c = '"' then ['\\', '"']
  else if c = '\\' then ['\\', '\\']
  else if c = '\n' then ['\\', 'n']
  else if c = '\r' then ['\\', 'r']
  else if c = '\t' then ['\\', 't']
  else if c.toNat = 12 then ['\\', 'f']
  else if c.toNat = 8 then ['\\', 'b']
  else if 32 ≤ c.toNat ∧ c.toNat ≤ 126 then [c]
  else if c.toNat < 65536 then '\\' :: 'u' :: hex4 c.toNat
  else
    let n := c.toNat - 65536
    -- the two halves of a surrogate pair
    '\\' :: 'u' :: hex4 (55296 + n / 1024) ++ '\\' :: 'u' :: hex4 (56320 + n % 1024)

/-- A string between its quotes. -/
def quote (s : String) : List Char :=
  '"' :: s.toList.flatMap escapeChar ++ ['"']

/-- An integer. -/
def intText (n : ℤ) : List Char :=
  if n < 0 then '-' :: Nat.toDigits 10 n.natAbs else Nat.toDigits 10 n.natAbs

mutual

/-- `json.dumps` with the separators `,` and `:`. -/
def dump : Json K → List Char
  | .null => "null".toList
  | .bool b => if b then "true".toList else "false".toList
  | .int n => intText n
  | .num x => F.repr x
  | .str s => quote s
  | .arr [] => "[]".toList
  | .arr (j :: a) => '[' :: (dump j ++ dumpItems a)
  | .obj [] => "\x7b\x7d".toList
  | .obj (e :: d) => '\x7b' :: (dumpMember e ++ dumpMembers d)

/-- The items of an array after its first, and the bracket that closes it. -/
def dumpItems : List (Json K) → List Char
  | [] => [']']
  | j :: a => ',' :: (dump j ++ dumpItems a)

/-- One member of an object. -/
def dumpMember : String × Json K → List Char
  | (k, j) => quote k ++ ':' :: dump j

/-- The members of an object after its first, and the brace that closes it. -/
def dumpMembers : List (String × Json K) → List Char
  | [] => ['\x7d']
  | e :: d => ',' :: (dumpMember e ++ dumpMembers d)

end

/-! ### Reading -/

/-- What may stand between two tokens. -/
def isBlank (c : Char) : Bool :=
  c = ' ' || c = '\t' || c = '\n' || c = '\r'

/-- What is behind the white space. -/
def skipBlanks (s : List Char) : List Char :=
  s.dropWhile isBlank

/-- The value of a hexadecimal digit. -/
def hexVal (c : Char) : Option ℕ :=
  if c.isDigit then some (c.toNat - 48)
  else if 97 ≤ c.toNat ∧ c.toNat ≤ 102 then some (c.toNat - 87)
  else if 65 ≤ c.toNat ∧ c.toNat ≤ 70 then some (c.toNat - 55)
  else none

/-- Four hexadecimal digits. -/
def readHex4 : List Char → Option (ℕ × List Char)
  | a :: b :: c :: d :: s => do
    let a ← hexVal a
    let b ← hexVal b
    let c ← hexVal c
    let d ← hexVal d
    some (((a * 16 + b) * 16 + c) * 16 + d, s)
  | _ => none

/-- What follows `\u`: a scalar value, or a surrogate pair. -/
def readUnicode (s : List Char) : Option (Char × List Char) := do
  let (n, s) ← readHex4 s
  if 55296 ≤ n ∧ n ≤ 56319 then
    match s with
    | '\\' :: 'u' :: s => do
      let (m, s) ← readHex4 s
      if 56320 ≤ m ∧ m ≤ 57343 then
        some (Char.ofNat (65536 + (n - 55296) * 1024 + (m - 56320)), s)
      else none
    | _ => none
  else if 56320 ≤ n ∧ n ≤ 57343 then none
  else some (Char.ofNat n, s)

/-- What a one-character escape stands for. -/
def unescape (c : Char) : Option Char :=
  if c = '"' then some '"'
  else if c = '\\' then some '\\'
  else if c = '/' then some '/'
  else if c = 'n' then some '\n'
  else if c = 'r' then some '\r'
  else if c = 't' then some '\t'
  else if c = 'f' then some (Char.ofNat 12)
  else if c = 'b' then some (Char.ofNat 8)
  else none

/-- One character of a string. A control character has to be escaped. -/
def readChar : List Char → Option (Char × List Char)
  | [] => none
  | c :: s =>
    if c = '\\' then
      match s with
      | [] => none
      | e :: s => if e = 'u' then readUnicode s else (unescape e).map fun c ↦ (c, s)
    else if c.toNat < 32 then none
    else some (c, s)

/-- The rest of a string after its opening quote, and what follows it. -/
def scanString : ℕ → List Char → Option (List Char × List Char)
  | 0, _ => none
  | fuel + 1, s =>
    if s.head? = some '"' then some ([], s.tail)
    else do
      let (c, s) ← readChar s
      let (t, s) ← scanString fuel s
      some (c :: t, s)

/-- A string after its opening quote. -/
def readString (s : List Char) : Option (String × List Char) :=
  (scanString s.length s).map fun r ↦ (String.ofList r.1, r.2)

/-- A numeral: digits, and no zero before them. -/
def readNat (ds : List Char) : Option ℕ :=
  if Nat.toDigits 10 (Nat.ofDigitChars 10 ds 0) = ds then some (Nat.ofDigitChars 10 ds 0) else none

/-- A number without a fraction or an exponent. -/
def readInt (token : List Char) : Option ℤ :=
  if token.head? = some '-' then (readNat token.tail).map fun (n : ℕ) ↦ -(n : ℤ)
  else (readNat token).map fun (n : ℕ) ↦ (n : ℤ)

/-- What `json.loads` raises. -/
inductive LoadsError where
  /-- `JSONDecodeError`. -/
  | decode
  /-- `ValueError` of `int`, on more digits than the interpreter converts. -/
  | digits
  deriving DecidableEq

/-- What is read, or a `JSONDecodeError`. -/
def orDecode {α : Type} : Option α → Except LoadsError α
  | some a => .ok a
  | none => .error .decode

/-- A fraction or an exponent begins here. -/
def startsFraction : List Char → Bool
  | [] => false
  | c :: s =>
    if c = '.' then s.head?.any Char.isDigit
    else if c = 'e' ∨ c = 'E' then
      (if s.head? = some '+' ∨ s.head? = some '-' then s.tail else s).head?.any Char.isDigit
    else false

/-- A number without its sign. -/
def unsigned (token : List Char) : List Char :=
  if token.head? = some '-' then token.tail else token

/-- The scanner hands the digits at the head of a number to `int`, and they are too many. -/
def tooManyDigits (token : List Char) : Bool :=
  let digits := (unsigned token).takeWhile Char.isDigit
  let rest := (unsigned token).dropWhile Char.isDigit
  F.max_digits.any (fun d ↦ d < digits.length) && digits.head? ≠ some '0' && !startsFraction rest

/-- A number, as far as its characters go. -/
def readNumber (s : List Char) : Except LoadsError (Json K × List Char) :=
  let token := s.takeWhile isNumberChar
  let rest := s.dropWhile isNumberChar
  if tooManyDigits F token then .error .digits
  else if token.any isFractionChar then orDecode ((F.float token).map fun x ↦ (.num x, rest))
  else orDecode ((readInt token).map fun n ↦ (.int n, rest))

/-- A value that is neither a string nor an array nor an object. -/
def readScalar (s : List Char) : Except LoadsError (Json K × List Char) :=
  if "null".toList <+: s then .ok (.null, s.drop 4)
  else if "true".toList <+: s then .ok (.bool true, s.drop 4)
  else if "false".toList <+: s then .ok (.bool false, s.drop 5)
  else readNumber F s

mutual

/-- A value at the head of a text, and what follows it. -/
def parseValue : ℕ → List Char → Except LoadsError (Json K × List Char)
  | 0, _ => .error .decode
  | _ + 1, [] => .error .decode
  | fuel + 1, c :: s =>
    if c = '"' then (orDecode (readString s)).map fun r ↦ (.str r.1, r.2)
    else if c = '[' then
      if (skipBlanks s).head? = some ']' then .ok (.arr [], (skipBlanks s).tail)
      else (parseItems fuel (skipBlanks s)).map fun r ↦ (.arr r.1, r.2)
    else if c = '\x7b' then
      if (skipBlanks s).head? = some ('\x7d') then .ok (.obj [], (skipBlanks s).tail)
      else (parseMembers fuel (skipBlanks s)).map fun r ↦ (.obj (dictOf r.1), r.2)
    else readScalar F (c :: s)

/-- The items of an array that has one, and the bracket that closes it. -/
def parseItems : ℕ → List Char → Except LoadsError (List (Json K) × List Char)
  | 0, _ => .error .decode
  | fuel + 1, s => do
    let (j, s) ← parseValue fuel s
    match skipBlanks s with
    | [] => .error .decode
    | c :: s =>
      if c = ',' then do
        let (a, s) ← parseItems fuel (skipBlanks s)
        .ok (j :: a, s)
      else if c = ']' then .ok ([j], s)
      else .error .decode

/-- The members of an object that has one, and the brace that closes it. -/
def parseMembers : ℕ → List Char → Except LoadsError (List (String × Json K) × List Char)
  | 0, _ => .error .decode
  | fuel + 1, s => do
    if s.head? ≠ some '"' then .error .decode
    let (k, s) ← orDecode (readString s.tail)
    if (skipBlanks s).head? ≠ some ':' then .error .decode
    let (j, s) ← parseValue fuel (skipBlanks (skipBlanks s).tail)
    match skipBlanks s with
    | [] => .error .decode
    | c :: s =>
      if c = ',' then do
        let (d, s) ← parseMembers fuel (skipBlanks s)
        .ok ((k, j) :: d, s)
      else if c = '\x7d' then .ok ([(k, j)], s)
      else .error .decode

end

/-- `json.loads`: one value and nothing after it. -/
def loads (text : List Char) : Except LoadsError (Json K) :=
  match parseValue F (text.length + 1) (skipBlanks text) with
  | .ok (j, s) => if skipBlanks s = [] then .ok j else .error .decode
  | .error e => .error e

/-! ### Strings read back -/

/-- A hexadecimal digit is read back. -/
theorem hexVal_digitChar {d : ℕ} (h : d < 16) : hexVal (Nat.digitChar d) = some d := by
  revert d
  decide

/-- Four hexadecimal digits are read back, whatever follows. -/
theorem readHex4_hex4 {n : ℕ} (h : n < 65536) (s : List Char) :
    readHex4 (hex4 n ++ s) = some (n, s) := by
  have hmod (k : ℕ) : hexVal (Nat.digitChar (k % 16)) = some (k % 16) :=
    hexVal_digitChar (Nat.mod_lt k (by decide))
  simp only [hex4, List.cons_append, List.nil_append, readHex4, hmod, Option.bind_eq_bind,
    Option.bind_some, Option.some.injEq, Prod.mk.injEq, and_true]
  omega

/-- A character is no half of a surrogate pair. -/
theorem toNat_scalar (c : Char) :
    (c.toNat < 55296 ∨ 57343 < c.toNat) ∧ c.toNat < 1114112 := by
  have h : c.toNat < 55296 ∨ 57343 < c.toNat ∧ c.toNat < 1114112 := c.valid
  omega

/-- An escape of a character below the supplementary planes is read back. -/
theorem readUnicode_hex4 {c : Char} (h : c.toNat < 65536) (s : List Char) :
    readUnicode (hex4 c.toNat ++ s) = some (c, s) := by
  have hscalar := (toNat_scalar c).1
  rw [readUnicode, readHex4_hex4 h]
  simp only [Option.bind_eq_bind, Option.bind_some]
  rw [if_neg (by omega), if_neg (by omega), Char.ofNat_toNat]

/-- Two escapes that are the halves of a pair are one character. -/
theorem readUnicode_pair {hi lo : ℕ} (hhi : 55296 ≤ hi ∧ hi ≤ 56319)
    (hlo : 56320 ≤ lo ∧ lo ≤ 57343) (s : List Char) :
    readUnicode (hex4 hi ++ '\\' :: 'u' :: (hex4 lo ++ s)) =
      some (Char.ofNat (65536 + (hi - 55296) * 1024 + (lo - 56320)), s) := by
  rw [readUnicode, readHex4_hex4 (by omega)]
  simp only [Option.bind_eq_bind, Option.bind_some]
  rw [if_pos hhi]
  simp only [readHex4_hex4 (show lo < 65536 by omega), Option.bind_some]
  rw [if_pos hlo]

/-- The halves that a character is written as are the halves of that character. -/
theorem ofNat_surrogates {c : Char} (h : 65536 ≤ c.toNat) {hi lo : ℕ}
    (hhi : hi = 55296 + (c.toNat - 65536) / 1024) (hlo : lo = 56320 + (c.toNat - 65536) % 1024) :
    Char.ofNat (65536 + (hi - 55296) * 1024 + (lo - 56320)) = c := by
  have hsum : 65536 + (hi - 55296) * 1024 + (lo - 56320) = c.toNat := by omega
  rw [hsum, Char.ofNat_toNat]

/-- A character beyond the basic plane is read back from its surrogate pair. -/
theorem readUnicode_surrogates {c : Char} (h : 65536 ≤ c.toNat) (s : List Char) :
    readUnicode (hex4 (55296 + (c.toNat - 65536) / 1024) ++
      '\\' :: 'u' :: (hex4 (56320 + (c.toNat - 65536) % 1024) ++ s)) = some (c, s) := by
  have hmax := (toNat_scalar c).2
  generalize hhi : 55296 + (c.toNat - 65536) / 1024 = hi
  generalize hlo : 56320 + (c.toNat - 65536) % 1024 = lo
  rw [readUnicode_pair (by omega) (by omega), ofNat_surrogates h hhi.symm hlo.symm]

theorem char_eq_ofNat {c : Char} {n : ℕ} (h : c.toNat = n) : c = Char.ofNat n := by
  rw [← h, Char.ofNat_toNat]

/-- A character that needs no escape stands for itself. -/
theorem readChar_plain {c : Char} (hslash : c ≠ '\\') (h : 32 ≤ c.toNat) (s : List Char) :
    readChar (c :: s) = some (c, s) := by
  have hcontrol : ¬c.toNat < 32 := by omega
  simp [readChar, hslash, hcontrol]

/-- **A character is read as it was written.** -/
theorem readChar_escapeChar (c : Char) (s : List Char) :
    readChar (escapeChar c ++ s) = some (c, s) := by
  rw [escapeChar]
  split_ifs with hquote hslash hn hr ht hf hb hplain hbmp
  · rw [hquote]; rfl
  · rw [hslash]; rfl
  · rw [hn]; rfl
  · rw [hr]; rfl
  · rw [ht]; rfl
  · rw [char_eq_ofNat hf]; rfl
  · rw [char_eq_ofNat hb]; rfl
  · exact readChar_plain hslash (by omega) s
  · exact readUnicode_hex4 hbmp s
  · rw [List.append_assoc]
    exact readUnicode_surrogates (by omega) s

/-- What a character is written as does not begin with a quote, so no string ends inside it. -/
theorem head?_escapeChar (c : Char) (s : List Char) : (escapeChar c ++ s).head? ≠ some '"' := by
  rw [escapeChar]
  split_ifs with hquote <;> simp [hquote]

/-- A string is read back up to its closing quote. -/
theorem scanString_flatMap {t : List Char} {fuel : ℕ} (h : t.length < fuel) (s : List Char) :
    scanString fuel (t.flatMap escapeChar ++ '"' :: s) = some (t, s) := by
  induction t generalizing fuel with
  | nil =>
    obtain ⟨fuel, rfl⟩ := Nat.exists_eq_succ_of_ne_zero (Nat.ne_of_gt h)
    rfl
  | cons c t ih =>
    obtain ⟨fuel, rfl⟩ := Nat.exists_eq_succ_of_ne_zero (Nat.ne_of_gt (Nat.zero_lt_of_lt h))
    rw [List.flatMap_cons, List.append_assoc, Nat.succ_eq_add_one, scanString,
      if_neg (head?_escapeChar c _), readChar_escapeChar]
    simp only [Option.bind_eq_bind, Option.bind_some]
    rw [ih (by simpa using h)]
    rfl

theorem escapeChar_length (c : Char) : 1 ≤ (escapeChar c).length := by
  rw [escapeChar]
  split_ifs <;> simp [hex4]

theorem length_le_flatMap_escapeChar (t : List Char) :
    t.length ≤ (t.flatMap escapeChar).length := by
  induction t with
  | nil => simp
  | cons c t ih =>
    have := escapeChar_length c
    simp only [List.flatMap_cons, List.length_append, List.length_cons]
    omega

/-- **A string is read as it was written.** -/
theorem readString_quote (t : String) (s : List Char) :
    readString (t.toList.flatMap escapeChar ++ '"' :: s) = some (t, s) := by
  have hfuel : t.toList.length < (t.toList.flatMap escapeChar ++ '"' :: s).length := by
    have := length_le_flatMap_escapeChar t.toList
    simp only [List.length_append, List.length_cons]
    omega
  rw [readString, scanString_flatMap hfuel, Option.map_some, String.ofList_toList]

/-! ### Numbers read back -/

/-- No number goes on here. -/
def NumberEnds (s : List Char) : Prop :=
  ∀ c ∈ s.head?, isNumberChar c = false

/-- The token of a number ends where the number does. -/
theorem takeWhile_number {token s : List Char} (h : ∀ c ∈ token, isNumberChar c = true)
    (hs : NumberEnds s) : (token ++ s).takeWhile isNumberChar = token := by
  rw [List.takeWhile_append_of_pos h]
  cases s with
  | nil => simp
  | cons c s => simp [hs c rfl]

/-- And what is behind it is left. -/
theorem dropWhile_number {token s : List Char} (h : ∀ c ∈ token, isNumberChar c = true)
    (hs : NumberEnds s) : (token ++ s).dropWhile isNumberChar = s := by
  rw [List.dropWhile_append_of_pos h]
  cases s with
  | nil => simp
  | cons c s => simp [hs c rfl]

/-- Decimal digits are read back. -/
theorem readNat_toDigits (n : ℕ) : readNat (Nat.toDigits 10 n) = some n := by
  rw [readNat, Nat.ofDigitChars_ten_toDigits, if_pos rfl]

theorem isDigit_toDigits {n : ℕ} {c : Char} (h : c ∈ Nat.toDigits 10 n) : c.isDigit = true :=
  Nat.isDigit_of_mem_toDigits (by decide) (by decide) h

/-- An integer is read back. -/
theorem readInt_intText (n : ℤ) : readInt (intText n) = some n := by
  rw [intText]
  split_ifs with h
  · rw [readInt, if_pos (by rfl), List.tail_cons, readNat_toDigits, Option.map_some]
    congr 1
    omega
  · have hhead : (Nat.toDigits 10 n.natAbs).head? ≠ some '-' := fun hmem ↦ by
      have := isDigit_toDigits (List.mem_of_head? hmem)
      revert this
      decide
    rw [readInt, if_neg hhead, readNat_toDigits, Option.map_some]
    congr 1
    omega

theorem isNumberChar_of_isDigit {c : Char} (h : c.isDigit = true) : isNumberChar c = true := by
  simp [isNumberChar, h]

theorem isFractionChar_of_isDigit {c : Char} (h : c.isDigit = true) : isFractionChar c = false := by
  simp only [isFractionChar, Bool.or_eq_false_iff, decide_eq_false_iff_not]
  refine ⟨⟨?_, ?_⟩, ?_⟩ <;>
  · rintro rfl
    revert h
    decide

/-- An integer is made of a sign and digits. -/
theorem mem_intText {n : ℤ} {c : Char} (h : c ∈ intText n) : c = '-' ∨ c.isDigit = true := by
  rw [intText] at h
  split_ifs at h
  · exact (List.mem_cons.1 h).imp id isDigit_toDigits
  · exact .inr (isDigit_toDigits h)

/-- An integer is written in characters of a number. -/
theorem isNumberChar_intText {n : ℤ} {c : Char} (h : c ∈ intText n) : isNumberChar c = true := by
  rcases mem_intText h with rfl | hd
  · rfl
  · exact isNumberChar_of_isDigit hd

/-- The digits of an integer are what its text is without the sign. -/
theorem unsigned_intText (n : ℤ) : unsigned (intText n) = Nat.toDigits 10 n.natAbs := by
  rw [intText]
  split_ifs with h
  · rfl
  · have hhead : (Nat.toDigits 10 n.natAbs).head? ≠ some '-' := fun hmem ↦ by
      have := isDigit_toDigits (List.mem_of_head? hmem)
      revert this
      decide
    rw [unsigned, if_neg hhead]

/-- A number is not given up on whose digits are within the limit. -/
theorem not_tooManyDigits {token : List Char}
    (h : ∀ d ∈ F.max_digits, ((unsigned token).takeWhile Char.isDigit).length ≤ d) :
    tooManyDigits F token = false := by
  have hfew : F.max_digits.any
      (fun d ↦ d < ((unsigned token).takeWhile Char.isDigit).length) = false := by
    rw [Option.any_eq_false]
    exact fun d hd ↦ by simpa using h d hd
  rw [tooManyDigits, hfew, Bool.false_and, Bool.false_and]

/-- **An integer that the interpreter converts is read back as an integer.** -/
theorem readNumber_intText {n : ℤ} (hn : F.Converts n) {s : List Char} (hs : NumberEnds s) :
    readNumber F (intText n ++ s) = .ok (.int n, s) := by
  have hnumber : ∀ c ∈ intText n, isNumberChar c = true := fun c ↦ isNumberChar_intText
  have hplain : (intText n).any isFractionChar = false := by
    rw [List.any_eq_false]
    intro c hc
    rcases mem_intText hc with rfl | hd
    · decide
    · simp [isFractionChar_of_isDigit hd]
  have hfew : tooManyDigits F (intText n) = false := by
    refine not_tooManyDigits F fun d hd ↦ ?_
    rw [unsigned_intText]
    exact (List.takeWhile_prefix _).length_le.trans (hn d hd)
  rw [readNumber, takeWhile_number hnumber hs, dropWhile_number hnumber hs, hfew, hplain,
    readInt_intText]
  rfl

/-- **A finite float is read back as that float**, and not as an integer: its text has a fraction or
an exponent. -/
theorem readNumber_repr {x : K} (hx : F.finite x) {s : List Char} (hs : NumberEnds s) :
    readNumber F (F.repr x ++ s) = .ok (.num x, s) := by
  have hnumber := F.repr_number x hx
  have hfew : tooManyDigits F (F.repr x) = false := by
    refine not_tooManyDigits F fun d hd ↦ ?_
    have hunsigned : (unsigned (F.repr x)).length ≤ (F.repr x).length := by
      rw [unsigned]
      split_ifs
      · rw [List.length_tail]
        omega
      · exact le_rfl
    exact ((List.takeWhile_prefix _).length_le.trans hunsigned).trans
      ((F.repr_short x hx).trans (F.max_digits_ge d hd))
  rw [readNumber, takeWhile_number hnumber hs, dropWhile_number hnumber hs, hfew,
    F.repr_fraction x hx, F.float_repr x hx]
  rfl

/-! ### Values read back -/

mutual

/-- Every float of a value is finite, every integer of it has digits that the interpreter converts,
and every object of it has each key once. -/
def Valid : Json K → Prop
  | .int n => F.Converts n
  | .num x => F.finite x
  | .arr a => ValidItems a
  | .obj d => (d.map Prod.fst).Nodup ∧ ValidMembers d
  | _ => True

/-- The same of every item of an array. -/
def ValidItems : List (Json K) → Prop
  | [] => True
  | j :: a => Valid j ∧ ValidItems a

/-- The same of the value of a member. -/
def ValidMember : String × Json K → Prop
  | (_, j) => Valid j

/-- The same of every member of an object. -/
def ValidMembers : List (String × Json K) → Prop
  | [] => True
  | e :: d => ValidMember e ∧ ValidMembers d

end

/-- Four characters that no value has at its head. -/
def startsValue (c : Char) : Bool :=
  !isBlank c && c ≠ ']' && c ≠ '\x7d' && c ≠ ','

theorem startsValue_of_number {c : Char} (h : isNumberChar c = true) : startsValue c = true := by
  by_contra hc
  have hcases : c = ' ' ∨ c = '\t' ∨ c = '\n' ∨ c = '\r' ∨ c = ']' ∨ c = '\x7d' ∨ c = ',' := by
    simp only [startsValue, isBlank, Bool.and_eq_true, Bool.not_eq_true', Bool.or_eq_false_iff,
      decide_eq_false_iff_not, decide_eq_true_eq] at hc
    tauto
  rcases hcases with rfl | rfl | rfl | rfl | rfl | rfl | rfl <;> exact absurd h (by decide)

/-- A value is not preceded by white space. -/
theorem skipBlanks_of_startsValue {c : Char} (h : startsValue c = true) (s : List Char) :
    skipBlanks (c :: s) = c :: s := by
  have hblank : isBlank c = false := by
    simp only [startsValue, Bool.and_eq_true, Bool.not_eq_true'] at h
    exact h.1.1.1
  simp [skipBlanks, hblank]

theorem intText_ne_nil (n : ℤ) : intText n ≠ [] := by
  rw [intText]
  split_ifs
  · exact List.cons_ne_nil _ _
  · exact Nat.toDigits_ne_nil

theorem repr_ne_nil {x : K} (hx : F.finite x) : F.repr x ≠ [] := by
  intro h
  have := F.repr_fraction x hx
  rw [h] at this
  cases this

/-- What a value is written with begins with a character that can begin one. -/
theorem exists_head_dump {j : Json K} (h : Valid F j) :
    ∃ c t, dump F j = c :: t ∧ startsValue c = true := by
  have hnumber {token : List Char} (hne : token ≠ [])
      (hmem : ∀ c ∈ token, isNumberChar c = true) :
      ∃ c t, token = c :: t ∧ startsValue c = true := by
    obtain ⟨c, t, rfl⟩ := List.exists_cons_of_ne_nil hne
    exact ⟨c, t, rfl, startsValue_of_number (hmem c List.mem_cons_self)⟩
  match j with
  | .null => exact ⟨'n', _, rfl, rfl⟩
  | .bool true => exact ⟨'t', _, rfl, rfl⟩
  | .bool false => exact ⟨'f', _, rfl, rfl⟩
  | .int n => exact hnumber (intText_ne_nil n) fun c ↦ isNumberChar_intText
  | .num x => exact hnumber (repr_ne_nil F h) (F.repr_number x h)
  | .str t => exact ⟨'"', _, rfl, rfl⟩
  | .arr [] => exact ⟨'[', _, rfl, rfl⟩
  | .arr (_ :: _) => exact ⟨'[', _, rfl, rfl⟩
  | .obj [] => exact ⟨'\x7b', _, rfl, rfl⟩
  | .obj (_ :: _) => exact ⟨'\x7b', _, rfl, rfl⟩

/-- Nothing is skipped ahead of what `dump` writes. -/
theorem skipBlanks_dump {j : Json K} (h : Valid F j) (s : List Char) :
    skipBlanks (dump F j ++ s) = dump F j ++ s := by
  obtain ⟨c, t, hj, hc⟩ := exists_head_dump F h
  rw [hj, List.cons_append, skipBlanks_of_startsValue hc]

/-- A number is not taken for anything else. -/
theorem parseValue_number {token : List Char} (hne : token ≠ [])
    (h : ∀ c ∈ token, isNumberChar c = true) (fuel : ℕ) (s : List Char) :
    parseValue F (fuel + 1) (token ++ s) = readNumber F (token ++ s) := by
  obtain ⟨c, t, rfl⟩ := List.exists_cons_of_ne_nil hne
  have hc := h c List.mem_cons_self
  have hother {d : Char} (hd : isNumberChar d = false) : c ≠ d := by
    rintro rfl
    rw [hc] at hd
    cases hd
  have hword {w : List Char} {d : Char} (hw : w.head? = some d) (hd : isNumberChar d = false) :
      ¬w <+: c :: (t ++ s) := by
    rw [List.head?_eq_some_iff] at hw
    obtain ⟨w, rfl⟩ := hw
    exact fun hpre ↦ hother hd (List.cons_prefix_cons.1 hpre).1.symm
  have hnull : ¬"null".toList <+: c :: (t ++ s) := hword (d := 'n') (by rfl) (by rfl)
  have htrue : ¬"true".toList <+: c :: (t ++ s) := hword (d := 't') (by rfl) (by rfl)
  have hfalse : ¬"false".toList <+: c :: (t ++ s) := hword (d := 'f') (by rfl) (by rfl)
  rw [List.cons_append, parseValue, if_neg (hother (by rfl)), if_neg (hother (by rfl)),
    if_neg (hother (by rfl)), readScalar, if_neg hnull, if_neg htrue, if_neg hfalse]

/-- A number ends ahead of a character that is none of its own. -/
theorem numberEnds_cons {c : Char} (h : isNumberChar c = false) (s : List Char) :
    NumberEnds (c :: s) := by
  intro d hd
  obtain rfl : c = d := by simpa using hd
  exact h

/-- A number ends where the next item of an array, or the end of it, follows. -/
theorem numberEnds_dumpItems (a : List (Json K)) (s : List Char) :
    NumberEnds (dumpItems F a ++ s) := by
  cases a with
  | nil => exact numberEnds_cons rfl _
  | cons j a => exact numberEnds_cons rfl _

/-- A number ends where the next member of an object, or the end of it, follows. -/
theorem numberEnds_dumpMembers (d : List (String × Json K)) (s : List Char) :
    NumberEnds (dumpMembers F d ++ s) := by
  cases d with
  | nil => exact numberEnds_cons rfl _
  | cons e d => exact numberEnds_cons rfl _

/-- No value begins with a bracket that closes, or with a comma. -/
theorem head?_dump_ne {j : Json K} (h : Valid F j) {c : Char} (hc : startsValue c = false)
    (s : List Char) : (dump F j ++ s).head? ≠ some c := by
  obtain ⟨d, t, hj, hd⟩ := exists_head_dump F h
  rw [hj, List.cons_append, List.head?_cons]
  rintro ⟨rfl⟩
  rw [hc] at hd
  cases hd

/-- An array with an item is its bracket and its items. -/
theorem parseValue_arr {j : Json K} (h : Valid F j) (fuel : ℕ) (s : List Char) :
    parseValue F (fuel + 1) ('[' :: (dump F j ++ s)) =
      (parseItems F fuel (dump F j ++ s)).map fun r ↦ (.arr r.1, r.2) := by
  rw [parseValue, if_neg (by decide), if_pos rfl, skipBlanks_dump F h,
    if_neg (head?_dump_ne F h rfl s)]

/-- A member, spelt out: its key between quotes, the colon, its value. -/
theorem dumpMember_append (e : String × Json K) (s : List Char) :
    dumpMember F e ++ s =
      '"' :: (e.1.toList.flatMap escapeChar ++ '"' :: ':' :: (dump F e.2 ++ s)) := by
  obtain ⟨k, j⟩ := e
  simp [dumpMember, quote]

/-- Nothing is skipped ahead of a member. -/
theorem skipBlanks_dumpMember (e : String × Json K) (s : List Char) :
    skipBlanks (dumpMember F e ++ s) = dumpMember F e ++ s := by
  rw [dumpMember_append, skipBlanks_of_startsValue rfl]

/-- An object with a member is its brace and its members. -/
theorem parseValue_obj (e : String × Json K) (fuel : ℕ) (s : List Char) :
    parseValue F (fuel + 1) ('\x7b' :: (dumpMember F e ++ s)) =
      (parseMembers F fuel (dumpMember F e ++ s)).map fun r ↦ (.obj (dictOf r.1), r.2) := by
  have hhead : (dumpMember F e ++ s).head? = some '"' := by
    rw [dumpMember_append, List.head?_cons]
  rw [parseValue, if_neg (by decide), if_neg (by decide), if_pos rfl, skipBlanks_dumpMember, hhead,
    if_neg (by decide)]

/-- The first member of an object, up to its value. -/
theorem parseMembers_cons {k : String} {j : Json K} (h : Valid F j) {fuel : ℕ} {s : List Char}
    (hj : parseValue F fuel (dump F j ++ s) = .ok (j, s)) :
    parseMembers F (fuel + 1) (dumpMember F (k, j) ++ s) =
      match skipBlanks s with
      | [] => .error .decode
      | c :: s =>
        if c = ',' then
          (parseMembers F fuel (skipBlanks s)).bind fun r ↦ .ok ((k, j) :: r.1, r.2)
        else if c = '\x7d' then .ok ([(k, j)], s)
        else .error .decode := by
  have hcolon : skipBlanks (':' :: (dump F j ++ s)) = ':' :: (dump F j ++ s) :=
    skipBlanks_of_startsValue rfl _
  rw [dumpMember_append, parseMembers, List.head?_cons, List.tail_cons, readString_quote]
  simp only [ne_eq, not_true_eq_false, if_false, orDecode, bind, Except.bind, hcolon,
    List.head?_cons, List.tail_cons, skipBlanks_dump F h, hj]

mutual

/-- **A value at the head of a text is read as it was written.** The fuel is what its text needs:
each array and each object spends a unit of it and a bracket. -/
theorem parseValue_dump (j : Json K) (h : Valid F j) {fuel : ℕ} (hfuel : (dump F j).length < fuel)
    {s : List Char} (hs : NumberEnds s) : parseValue F fuel (dump F j ++ s) = .ok (j, s) := by
  -- On the value; the fuel is longer than the text, and the texts of the parts are shorter.
  obtain ⟨fuel, rfl⟩ := Nat.exists_eq_succ_of_ne_zero (Nat.ne_of_gt (Nat.zero_lt_of_lt hfuel))
  match j with
  | .null => rfl
  | .bool true => rfl
  | .bool false => rfl
  | .int n =>
    exact (parseValue_number F (intText_ne_nil n) (fun c ↦ isNumberChar_intText) fuel s).trans
      (readNumber_intText F h hs)
  | .num x =>
    exact (parseValue_number F (repr_ne_nil F h) (F.repr_number x h) fuel s).trans
      (readNumber_repr F h hs)
  | .str t =>
    have htext : dump F (.str t) ++ s = '"' :: (t.toList.flatMap escapeChar ++ '"' :: s) := by
      simp [dump, quote]
    rw [htext, parseValue, if_pos rfl, readString_quote]
    rfl
  | .arr [] => rfl
  | .arr (i :: a) =>
    have htext : dump F (.arr (i :: a)) ++ s = '[' :: (dump F i ++ (dumpItems F a ++ s)) := by
      simp [dump]
    have hlength : (dump F i).length + (dumpItems F a).length < fuel := by
      simpa [dump] using hfuel
    have hitems := parseItems_dump i a h.1 h.2 hlength s
    rw [List.append_assoc] at hitems
    rw [htext, parseValue_arr F h.1, hitems]
    rfl
  | .obj [] => rfl
  | .obj (e :: d) =>
    have htext : dump F (.obj (e :: d)) ++ s =
        '\x7b' :: (dumpMember F e ++ (dumpMembers F d ++ s)) := by
      simp [dump]
    have hlength : (dumpMember F e).length + (dumpMembers F d).length < fuel := by
      simpa [dump] using hfuel
    have hmembers := parseMembers_dump e d h.2.1 h.2.2 hlength s
    rw [List.append_assoc] at hmembers
    rw [htext, parseValue_obj, hmembers, Except.map, dictOf_of_nodup h.1]
termination_by fuel

/-- The items of an array. -/
theorem parseItems_dump (j : Json K) (a : List (Json K)) (h : Valid F j) (ha : ValidItems F a)
    {fuel : ℕ} (hfuel : (dump F j).length + (dumpItems F a).length < fuel) (s : List Char) :
    parseItems F fuel (dump F j ++ dumpItems F a ++ s) = .ok (j :: a, s) := by
  obtain ⟨fuel, rfl⟩ := Nat.exists_eq_succ_of_ne_zero (Nat.ne_of_gt (Nat.zero_lt_of_lt hfuel))
  match a with
  | [] =>
    have hlength : (dump F j).length < fuel := by simpa [dumpItems] using hfuel
    have hj := parseValue_dump j h hlength (numberEnds_dumpItems F [] s)
    rw [List.append_assoc, Nat.succ_eq_add_one, parseItems, hj]
    rfl
  | i :: a =>
    have hlength : (dump F j).length + ((dump F i).length + (dumpItems F a).length) < fuel := by
      simp [dumpItems] at hfuel
      omega
    have hvalue : (dump F j).length < fuel := by omega
    have hrest : (dump F i).length + (dumpItems F a).length < fuel := by omega
    have hj := parseValue_dump j h hvalue (numberEnds_dumpItems F (i :: a) s)
    have hitems := parseItems_dump i a ha.1 ha.2 hrest s
    have hcomma : skipBlanks (dumpItems F (i :: a) ++ s) =
        ',' :: (dump F i ++ (dumpItems F a ++ s)) := by
      simp [dumpItems, skipBlanks, isBlank]
    rw [List.append_assoc] at hitems
    rw [List.append_assoc, Nat.succ_eq_add_one, parseItems, hj]
    simp only [bind, Except.bind, hcomma, if_true, skipBlanks_dump F ha.1, hitems]
termination_by fuel

/-- The members of an object. -/
theorem parseMembers_dump (e : String × Json K) (d : List (String × Json K)) (h : ValidMember F e)
    (hd : ValidMembers F d) {fuel : ℕ}
    (hfuel : (dumpMember F e).length + (dumpMembers F d).length < fuel) (s : List Char) :
    parseMembers F fuel (dumpMember F e ++ dumpMembers F d ++ s) = .ok (e :: d, s) := by
  obtain ⟨fuel, rfl⟩ := Nat.exists_eq_succ_of_ne_zero (Nat.ne_of_gt (Nat.zero_lt_of_lt hfuel))
  match e, d with
  | (k, j), [] =>
    have hlength : (dump F j).length < fuel := by
      simp [dumpMember] at hfuel
      omega
    have hj := parseValue_dump j h hlength (numberEnds_dumpMembers F [] s)
    rw [List.append_assoc, Nat.succ_eq_add_one, parseMembers_cons F h hj]
    rfl
  | (k, j), e' :: d =>
    have hlength : (dump F j).length + ((dumpMember F e').length + (dumpMembers F d).length) <
        fuel := by
      simp [dumpMember, dumpMembers] at hfuel ⊢
      omega
    have hvalue : (dump F j).length < fuel := by omega
    have hrest : (dumpMember F e').length + (dumpMembers F d).length < fuel := by omega
    have hj := parseValue_dump j h hvalue (numberEnds_dumpMembers F (e' :: d) s)
    have hmembers := parseMembers_dump e' d hd.1 hd.2 hrest s
    have hcomma : skipBlanks (dumpMembers F (e' :: d) ++ s) =
        ',' :: (dumpMember F e' ++ (dumpMembers F d ++ s)) := by
      simp [dumpMembers, skipBlanks, isBlank]
    rw [List.append_assoc] at hmembers
    rw [List.append_assoc, Nat.succ_eq_add_one, parseMembers_cons F h hj, hcomma]
    simp only [if_true, skipBlanks_dumpMember, hmembers, Except.bind]
termination_by fuel

end

/-- **Reading undoes writing.** -/
theorem loads_dump {j : Json K} (h : Valid F j) : loads F (dump F j) = .ok j := by
  have hend : NumberEnds ([] : List Char) := fun c hc ↦ by cases hc
  have hj := parseValue_dump F j h (Nat.lt_succ_self _) hend
  have hblanks := skipBlanks_dump F h []
  rw [List.append_nil] at hj hblanks
  rw [loads, hblanks, hj]
  rfl

/-! ### What is written -/

/-- A printable character of ASCII. -/
def Printable (c : Char) : Prop :=
  32 ≤ c.toNat ∧ c.toNat ≤ 126

instance (c : Char) : Decidable (Printable c) :=
  inferInstanceAs (Decidable (32 ≤ c.toNat ∧ c.toNat ≤ 126))

theorem printable_digitChar {d : ℕ} (h : d < 16) : Printable (Nat.digitChar d) := by
  revert d
  decide

/-- Hexadecimal digits are printable. -/
theorem printable_hex4 {n : ℕ} {c : Char} (h : c ∈ hex4 n) : Printable c := by
  simp only [hex4, List.mem_cons, List.not_mem_nil, or_false] at h
  rcases h with rfl | rfl | rfl | rfl <;>
    exact printable_digitChar (Nat.mod_lt _ (by decide))

/-- What a character is written as is printable, whatever the character. -/
theorem printable_escapeChar {c d : Char} (h : d ∈ escapeChar c) : Printable d := by
  have hpair {a b : Char} (ha : Printable a) (hb : Printable b) (hd : d ∈ [a, b]) :
      Printable d := by
    simp only [List.mem_cons, List.not_mem_nil, or_false] at hd
    rcases hd with rfl | rfl
    · exact ha
    · exact hb
  have hunicode {n : ℕ} (hd : d ∈ '\\' :: 'u' :: hex4 n) : Printable d := by
    simp only [List.mem_cons] at hd
    rcases hd with rfl | rfl | hd
    · decide
    · decide
    · exact printable_hex4 hd
  rw [escapeChar] at h
  split_ifs at h with hquote hslash hn hr ht hf hb hplain hbmp
  · exact hpair (by decide) (by decide) h
  · exact hpair (by decide) (by decide) h
  · exact hpair (by decide) (by decide) h
  · exact hpair (by decide) (by decide) h
  · exact hpair (by decide) (by decide) h
  · exact hpair (by decide) (by decide) h
  · exact hpair (by decide) (by decide) h
  · rw [List.mem_singleton.1 h]
    exact hplain
  · exact hunicode h
  · rcases List.mem_append.1 h with h | h
    · exact hunicode h
    · exact hunicode h

/-- A string is written in printable characters. -/
theorem printable_quote {s : String} {c : Char} (h : c ∈ quote s) : Printable c := by
  simp only [quote, List.mem_cons, List.mem_append, List.mem_flatMap, List.not_mem_nil,
    or_false] at h
  rcases h with (rfl | ⟨d, -, h⟩) | rfl
  · decide
  · exact printable_escapeChar h
  · decide

/-- A number is written in printable characters. -/
theorem printable_number {c : Char} (h : isNumberChar c = true) : Printable c := by
  simp only [isNumberChar, Bool.or_eq_true, decide_eq_true_eq] at h
  rcases h with ((((h | rfl) | rfl) | rfl) | rfl) | rfl
  · simp only [Char.isDigit, Bool.and_eq_true, decide_eq_true_eq] at h
    obtain ⟨hlow, hhigh⟩ := h
    have hlow : 48 ≤ c.toNat := hlow
    have hhigh : c.toNat ≤ 57 := hhigh
    exact ⟨by omega, by omega⟩
  all_goals decide

/-- A text that can be looked at is printable. -/
theorem printable_of_all {text : List Char} (h : text.all (fun c ↦ Printable c) = true) :
    ∀ c ∈ text, Printable c := by
  simpa using h

mutual

/-- **What is written is printable.** -/
theorem printable_dump (j : Json K) (h : Valid F j) : ∀ c ∈ dump F j, Printable c := by
  match j with
  | .null => exact printable_of_all (by rfl)
  | .bool true => exact printable_of_all (by rfl)
  | .bool false => exact printable_of_all (by rfl)
  | .int n => exact fun c hc ↦ printable_number (isNumberChar_intText hc)
  | .num x => exact fun c hc ↦ printable_number (F.repr_number x h c hc)
  | .str t => exact fun c hc ↦ printable_quote hc
  | .arr [] => exact printable_of_all (by rfl)
  | .arr (i :: a) =>
    have hi := printable_dump i h.1
    have ha := printable_dumpItems a h.2
    simp only [dump, List.mem_cons, List.mem_append]
    rintro c (rfl | hc | hc)
    · decide
    · exact hi c hc
    · exact ha c hc
  | .obj [] => exact printable_of_all (by rfl)
  | .obj (e :: d) =>
    have he := printable_dumpMember e h.2.1
    have hd := printable_dumpMembers d h.2.2
    simp only [dump, List.mem_cons, List.mem_append]
    rintro c (rfl | hc | hc)
    · decide
    · exact he c hc
    · exact hd c hc

/-- The items of an array are written in printable characters. -/
theorem printable_dumpItems (a : List (Json K)) (h : ValidItems F a) :
    ∀ c ∈ dumpItems F a, Printable c := by
  match a with
  | [] => exact printable_of_all (by rfl)
  | j :: a =>
    have hj := printable_dump j h.1
    have ha := printable_dumpItems a h.2
    simp only [dumpItems, List.mem_cons, List.mem_append]
    rintro c (rfl | hc | hc)
    · decide
    · exact hj c hc
    · exact ha c hc

/-- A member of an object is written in printable characters. -/
theorem printable_dumpMember (e : String × Json K) (h : ValidMember F e) :
    ∀ c ∈ dumpMember F e, Printable c := by
  match e with
  | (k, j) =>
    have hj := printable_dump j h
    simp only [dumpMember, List.mem_cons, List.mem_append]
    rintro c (hc | rfl | hc)
    · exact printable_quote hc
    · decide
    · exact hj c hc

/-- The members of an object are written in printable characters. -/
theorem printable_dumpMembers (d : List (String × Json K)) (h : ValidMembers F d) :
    ∀ c ∈ dumpMembers F d, Printable c := by
  match d with
  | [] => exact printable_of_all (by rfl)
  | e :: d =>
    have he := printable_dumpMember e h.1
    have hd := printable_dumpMembers d h.2
    simp only [dumpMembers, List.mem_cons, List.mem_append]
    rintro c (rfl | hc | hc)
    · decide
    · exact he c hc
    · exact hd c hc

end

end VertexTestbed.JsonText
