import Mathlib

/-!
# Models that are dumped to JSON and validated back

A declarative model is a record whose fields have a name, a codec and possibly a default. It is
*dumped* to a JSON object, with or without the fields that are absent, and a JSON object is
*validated* back into it: an unknown key is refused, a missing one takes its default.

`JsonCodec` packs the two directions with the law that validation undoes a dump. `Fields` describes
a record field by field, in the order of its constructor's arguments. Its law speaks of every object
that *agrees* with a dump on the keys, whatever else was done to it.

The text of a JSON document does not appear: values are trees, and a number with a fraction is an
element of `K`.
-/

namespace VertexTestbed

/-! ### Dictionaries in insertion order -/

section Dict

variable {κ T : Type*} [DecidableEq κ]

/-- `d[k] = v`: in place when the key is there, at the end when it is not. -/
def dictSet (k : κ) (v : T) : List (κ × T) → List (κ × T)
  | [] => [(k, v)]
  | e :: d => if e.1 = k then (k, v) :: d else e :: dictSet k v d

/-- The first entry of a key is the one that counts. -/
theorem lookup_cons_eq_ite (k k' : κ) (v : T) (d : List (κ × T)) :
    ((k, v) :: d).lookup k' = if k' = k then some v else d.lookup k' := by
  rcases eq_or_ne k' k with h | h
  · rw [if_pos h, h, List.lookup_cons_self]
  · rw [if_neg h, List.lookup_cons, beq_eq_false_iff_ne.2 h]

/-- What is found is in the dict. -/
theorem lookup_mem {d : List (κ × T)} {k : κ} {v : T}
    (h : d.lookup k = some v) : (k, v) ∈ d := by
  induction d with
  | nil => cases h
  | cons e d ih =>
    obtain ⟨k', v'⟩ := e
    rw [lookup_cons_eq_ite] at h
    split at h
    · rename_i hk
      cases h
      exact hk ▸ List.mem_cons_self
    · exact List.mem_cons_of_mem _ (ih h)

/-- A filter by key hides the keys that it drops, and no other. -/
theorem lookup_filter (p : κ → Bool) (d : List (κ × T)) (k : κ) :
    (d.filter fun e ↦ p e.1).lookup k = if p k then d.lookup k else none := by
  induction d with
  | nil => simp
  | cons e d ih =>
    obtain ⟨k', v⟩ := e
    rw [List.filter_cons, lookup_cons_eq_ite]
    rcases eq_or_ne k k' with rfl | hk
    · cases hp : p k <;> simp [hp, ih]
    · cases p k' <;> simp [ih, hk, lookup_cons_eq_ite]

/-- An element is found by its key. -/
theorem find?_of_nodup {A : Type*} {f : A → κ} {l : List A} (hnodup : (l.map f).Nodup) {a : A}
    (h : a ∈ l) : (l.find? fun n ↦ f n = f a) = some a := by
  induction l with
  | nil => cases h
  | cons n l ih =>
    rw [List.map_cons, List.nodup_cons] at hnodup
    rcases List.mem_cons.1 h with rfl | h
    · simp
    · have hne : f n ≠ f a := fun heq ↦ hnodup.1 (heq ▸ List.mem_map_of_mem h)
      rw [List.find?_cons_of_neg (by simpa using hne)]
      exact ih hnodup.2 h

/-- A new key goes to the end. -/
theorem dictSet_of_notMem {k : κ} {d : List (κ × T)} (h : k ∉ d.map Prod.fst) (v : T) :
    dictSet k v d = d ++ [(k, v)] := by
  induction d with
  | nil => rfl
  | cons e d ih =>
    simp only [List.map_cons, List.mem_cons, not_or] at h
    rw [dictSet, if_neg (Ne.symm h.1), ih h.2, List.cons_append]

/-- Setting a key adds it to the keys, and no other. -/
theorem mem_keys_dictSet (k : κ) (v : T) (d : List (κ × T)) (k' : κ) :
    k' ∈ (dictSet k v d).map Prod.fst ↔ k' = k ∨ k' ∈ d.map Prod.fst := by
  induction d with
  | nil => simp [dictSet]
  | cons e d ih =>
    rw [dictSet]
    split
    · rename_i he
      simp [he]
    · rw [List.map_cons, List.mem_cons, ih, List.map_cons, List.mem_cons]
      tauto

/-- Keys stay distinct. -/
theorem nodup_dictSet {d : List (κ × T)} (h : (d.map Prod.fst).Nodup) (k : κ) (v : T) :
    ((dictSet k v d).map Prod.fst).Nodup := by
  induction d with
  | nil => simp [dictSet]
  | cons e d ih =>
    rw [List.map_cons, List.nodup_cons] at h
    rw [dictSet]
    split
    · rename_i he
      rw [List.map_cons, List.nodup_cons]
      exact ⟨he ▸ h.1, h.2⟩
    · rename_i he
      rw [List.map_cons, List.nodup_cons]
      refine ⟨fun hmem ↦ ?_, ih h.2⟩
      rcases (mem_keys_dictSet k v d e.1).1 hmem with hk | hd
      · exact he hk
      · exact h.1 hd

/-- `dict(items)`: a later item replaces an earlier one of the same key. -/
def dictOf (items : List (κ × T)) : List (κ × T) :=
  items.foldl (fun d e ↦ dictSet e.1 e.2 d) []

/-- Setting new keys one after another appends them. -/
theorem foldl_dictSet_of_nodup (items d : List (κ × T))
    (h : ((d ++ items).map Prod.fst).Nodup) :
    items.foldl (fun d e ↦ dictSet e.1 e.2 d) d = d ++ items := by
  induction items generalizing d with
  | nil => simp
  | cons e items ih =>
    have hk : e.1 ∉ d.map Prod.fst := by
      rw [List.map_append, List.map_cons, List.nodup_append] at h
      exact fun hmem ↦ h.2.2 _ hmem _ List.mem_cons_self rfl
    rw [List.foldl_cons, dictSet_of_notMem hk, ih _ (by simpa using h)]
    simp

/-- Items with distinct keys make a dict as they are. -/
theorem dictOf_of_nodup {items : List (κ × T)} (h : (items.map Prod.fst).Nodup) :
    dictOf items = items := by
  simpa [dictOf] using foldl_dictSet_of_nodup items [] (by simpa using h)

/-- Keys stay distinct over many settings. -/
theorem nodup_foldl_dictSet (items : List (κ × T)) {d : List (κ × T)}
    (h : (d.map Prod.fst).Nodup) :
    ((items.foldl (fun d e ↦ dictSet e.1 e.2 d) d).map Prod.fst).Nodup := by
  induction items generalizing d with
  | nil => exact h
  | cons e items ih => exact ih (nodup_dictSet h e.1 e.2)

/-- A dict has each key once, whatever it is made of. -/
theorem nodup_dictOf (items : List (κ × T)) : ((dictOf items).map Prod.fst).Nodup :=
  nodup_foldl_dictSet items List.nodup_nil

/-- A dictionary: no key appears twice. -/
def Dict (κ T : Type*) : Type _ := {d : List (κ × T) // (d.map Prod.fst).Nodup}

/-- The dictionary of a list of items. -/
def Dict.of (items : List (κ × T)) : Dict κ T := ⟨dictOf items, nodup_dictOf items⟩

theorem Dict.of_val (d : Dict κ T) : Dict.of d.1 = d :=
  Subtype.ext (dictOf_of_nodup d.2)

end Dict

/-! ### JSON values -/

/-- A JSON value. -/
inductive Json (K : Type*) where
  | null
  | bool (b : Bool)
  | int (n : ℤ)
  | num (x : K)
  | str (s : String)
  | arr (a : List (Json K))
  | obj (d : List (String × Json K))

namespace Json

variable {K : Type*}

/-- `j[k]`. -/
def get? (j : Json K) (k : String) : Option (Json K) :=
  match j with
  | .obj d => d.lookup k
  | _ => none

/-- `j[k] = v`. -/
def set (j : Json K) (k : String) (v : Json K) : Json K :=
  match j with
  | .obj d => .obj (dictSet k v d)
  | _ => j

/-- An edit of `j[k]` in place. -/
def modify (j : Json K) (k : String) (f : Json K → Json K) : Json K :=
  match j.get? k with
  | some v => j.set k (f v)
  | none => j

@[simp]
theorem get?_obj (k : String) (d : List (String × Json K)) : (obj d).get? k = d.lookup k := rfl

@[simp]
theorem set_obj (k : String) (v : Json K) (d : List (String × Json K)) :
    (obj d).set k v = .obj (dictSet k v d) := rfl

end Json

/-! ### Codecs -/

/-- The two directions of a type's JSON form, and the law between them. The flag of `dump` says
whether absent fields are left out. -/
structure JsonCodec (K T : Type*) where
  dump : Bool → T → Json K
  validate : Json K → Option T
  validate_null : validate .null = none
  validate_dump : ∀ excl t, validate (dump excl t) = some t

namespace JsonCodec

variable {K A B T : Type*}

/-- A boolean. -/
def bool : JsonCodec K Bool where
  dump _ b := .bool b
  validate
    | .bool b => some b
    | _ => none
  validate_null := rfl
  validate_dump _ _ := rfl

/-- An integer. -/
def int : JsonCodec K ℤ where
  dump _ n := .int n
  validate
    | .int n => some n
    | _ => none
  validate_null := rfl
  validate_dump _ _ := rfl

/-- A string. -/
def str : JsonCodec K String where
  dump _ s := .str s
  validate
    | .str s => some s
    | _ => none
  validate_null := rfl
  validate_dump _ _ := rfl

/-- A number; an integer is one. -/
def float [IntCast K] : JsonCodec K K where
  dump _ x := .num x
  validate
    | .num x => some x
    | .int n => some (n : K)
    | _ => none
  validate_null := rfl
  validate_dump _ _ := rfl

/-- `dict[str, Any]`. -/
def anyDict : JsonCodec K (List (String × Json K)) where
  dump _ d := .obj d
  validate
    | .obj d => some d
    | _ => none
  validate_null := rfl
  validate_dump _ _ := rfl

/-- What undoes a function item by item undoes it on a list. -/
theorem mapM_map_eq_some {A B : Type*} {f : B → Option A} {g : A → B} (h : ∀ x, f (g x) = some x)
    (l : List A) : (l.map g).mapM f = some l := by
  induction l with
  | nil => rfl
  | cons x l ih => simp [List.mapM_cons, h, ih]

/-- A list of values of one type. -/
def list (c : JsonCodec K T) : JsonCodec K (List T) where
  dump excl ts := .arr (ts.map (c.dump excl))
  validate
    | .arr a => a.mapM c.validate
    | _ => none
  validate_null := rfl
  validate_dump excl ts := mapM_map_eq_some (c.validate_dump excl) ts

/-- `tuple[A, B]`. -/
def pair (a : JsonCodec K A) (b : JsonCodec K B) : JsonCodec K (A × B) where
  dump excl t := .arr [a.dump excl t.1, b.dump excl t.2]
  validate
    | .arr [x, y] => (a.validate x).bind fun s ↦ (b.validate y).map fun t ↦ (s, t)
    | _ => none
  validate_null := rfl
  validate_dump excl t := by simp [a.validate_dump, b.validate_dump]

/-- One item of a `dict[int, T]`, its key spelled as a string. -/
def intItem (c : JsonCodec K T) (e : String × Json K) : Option (ℤ × T) :=
  e.1.toInt?.bind fun k ↦ (c.validate e.2).map fun t ↦ (k, t)

/-- An entry under an integer key is read back. -/
theorem intItem_dump (c : JsonCodec K T) (excl : Bool) (e : ℤ × T) :
    c.intItem (e.1.repr, c.dump excl e.2) = some e := by
  rw [intItem, Int.toInt?_repr, Option.bind_some, c.validate_dump, Option.map_some]

/-- `dict[int, T]`: the keys become strings, and are read back as integers. -/
def intDict (c : JsonCodec K T) : JsonCodec K (Dict ℤ T) where
  dump excl d := .obj (d.1.map fun e ↦ (e.1.repr, c.dump excl e.2))
  validate
    | .obj d => (d.mapM c.intItem).map Dict.of
    | _ => none
  validate_null := rfl
  validate_dump excl d := by
    show ((d.1.map fun e ↦ (e.1.repr, c.dump excl e.2)).mapM c.intItem).map Dict.of = some d
    rw [mapM_map_eq_some (c.intItem_dump excl), Option.map_some, Dict.of_val]

/-- A string literal or an enumeration of strings. -/
def literal (name : T → String) (values : List T) (hmem : ∀ t, t ∈ values)
    (hname : Function.Injective name) : JsonCodec K T where
  dump _ t := .str (name t)
  validate
    | .str s => values.find? fun t ↦ name t = s
    | _ => none
  validate_null := rfl
  validate_dump _ t := by
    show values.find? (fun u ↦ name u = name t) = some t
    rcases h : values.find? fun u ↦ name u = name t with _ | u
    · simpa using List.find?_eq_none.1 h t (hmem t)
    · have hu : name u = name t := by simpa using List.find?_some h
      exact congrArg some (hname hu)

/-- `A | B`, for types whose JSON forms do not overlap. -/
def union (a : JsonCodec K A) (b : JsonCodec K B)
    (h : ∀ excl t, a.validate (b.dump excl t) = none) : JsonCodec K (A ⊕ B) where
  dump excl t := t.elim (a.dump excl) (b.dump excl)
  validate j := ((a.validate j).map Sum.inl).or ((b.validate j).map Sum.inr)
  validate_null := by simp [a.validate_null, b.validate_null]
  validate_dump excl t := by
    cases t with
    | inl t => simp [a.validate_dump]
    | inr t => simp [h, b.validate_dump]

/-- The values of a type that pass a check. -/
def checked (c : JsonCodec K T) (p : T → Prop) [DecidablePred p] :
    JsonCodec K {t // p t} where
  dump excl t := c.dump excl t.1
  validate j := (c.validate j).bind fun t ↦ if h : p t then some ⟨t, h⟩ else none
  validate_null := by simp [c.validate_null]
  validate_dump excl t := by simp [c.validate_dump, t.2]

end JsonCodec

/-! ### Records -/

/-- The description of some fields of a record `R`, from which an `A` is built. `parse_of_agree` is
the law: whatever agrees with a dump of `r` on the keys is read as `r` was. -/
structure Fields (K R A : Type*) where
  keys : List String
  dump : Bool → R → List (String × Json K)
  parse : List (String × Json K) → Option A
  out : R → A
  key_mem : ∀ excl r, ∀ e ∈ dump excl r, e.1 ∈ keys
  parse_of_agree : keys.Nodup → ∀ excl r d,
    (∀ k ∈ keys, d.lookup k = (dump excl r).lookup k) → parse d = some (out r)

namespace Fields

variable {K R A B : Type*}

/-- A record writes none but its own keys. -/
theorem lookup_dump_of_notMem (f : Fields K R A) {k : String} (h : k ∉ f.keys) (excl : Bool)
    (r : R) : (f.dump excl r).lookup k = none := by
  rw [List.lookup_eq_none_iff]
  intro e he
  exact bne_iff_ne.2 fun hk ↦ h (hk ▸ f.key_mem excl r e he)

/-- No field yet: the constructor waits for all of them. -/
def build (mk : A) : Fields K R A where
  keys := []
  dump _ _ := []
  parse _ := some mk
  out _ := mk
  key_mem _ _ e he := by cases he
  parse_of_agree _ _ _ _ _ := rfl

/-- One field on its own. Without a default it is required. -/
def single (key : String) (c : JsonCodec K A) (get : R → A) (default : Option A) :
    Fields K R A where
  keys := [key]
  dump excl r := [(key, c.dump excl (get r))]
  parse d :=
    match d.lookup key with
    | some j => c.validate j
    | none => default
  out := get
  key_mem excl r e he := by
    rw [List.mem_singleton] at he
    rw [he]
    exact List.mem_singleton_self key
  parse_of_agree _ excl r d h := by
    have hkey : d.lookup key = some (c.dump excl (get r)) := by
      rw [h key (List.mem_singleton_self key), List.lookup_cons_self]
    rw [hkey]
    exact c.validate_dump excl (get r)

/-- One field that may be absent. `null` and a missing key both read as absent. -/
def singleOptional (key : String) (c : JsonCodec K A) (get : R → Option A) :
    Fields K R (Option A) where
  keys := [key]
  dump excl r :=
    match get r with
    | some a => [(key, c.dump excl a)]
    | none => if excl then [] else [(key, .null)]
  parse d :=
    match d.lookup key with
    | some .null => some none
    | some j => (c.validate j).map some
    | none => some none
  out := get
  key_mem excl r e he := by
    split at he
    · rw [List.mem_singleton.1 he]
      exact List.mem_singleton_self key
    · split at he
      · cases he
      · rw [List.mem_singleton.1 he]
        exact List.mem_singleton_self key
  parse_of_agree _ excl r d h := by
    rw [h key (List.mem_singleton_self key)]
    rcases get r with _ | a
    · cases excl <;> simp
    · have hnull : c.dump excl a ≠ .null := fun hj ↦ by
        simpa [hj, c.validate_null] using c.validate_dump excl a
      simp only [List.lookup_cons_self, c.validate_dump, Option.map_some]

/-- The fields of `f` and those of `a`, whose value is `f`'s next argument. -/
def ap (f : Fields K R (A → B)) (a : Fields K R A) : Fields K R B where
  keys := f.keys ++ a.keys
  dump excl r := f.dump excl r ++ a.dump excl r
  parse d := (f.parse d).bind fun g ↦ (a.parse d).map g
  out r := f.out r (a.out r)
  key_mem excl r e he := by
    rw [List.mem_append] at he ⊢
    exact he.imp (f.key_mem excl r e) (a.key_mem excl r e)
  parse_of_agree hkeys excl r d h := by
    obtain ⟨hf, ha, hdisj⟩ := List.nodup_append'.1 hkeys
    have hfst : ∀ k ∈ f.keys, d.lookup k = (f.dump excl r).lookup k := by
      intro k hk
      rw [h k (List.mem_append_left _ hk), List.lookup_append,
        a.lookup_dump_of_notMem (hdisj hk), Option.or_none]
    have hsnd : ∀ k ∈ a.keys, d.lookup k = (a.dump excl r).lookup k := by
      intro k hk
      rw [h k (List.mem_append_right _ hk), List.lookup_append,
        f.lookup_dump_of_notMem (fun hk' ↦ hdisj hk' hk), Option.none_or]
    rw [f.parse_of_agree hf excl r d hfst, a.parse_of_agree ha excl r d hsnd]
    rfl

/-- The next field. -/
def field (f : Fields K R (A → B)) (key : String) (c : JsonCodec K A) (get : R → A)
    (default : Option A) : Fields K R B :=
  f.ap (single key c get default)

/-- The next field, one that may be absent. -/
def optional (f : Fields K R (Option A → B)) (key : String) (c : JsonCodec K A)
    (get : R → Option A) : Fields K R B :=
  f.ap (singleOptional key c get)

/-- Before the first field there is no key. -/
@[simp]
theorem keys_build (mk : A) : (build mk : Fields K R A).keys = [] := rfl

/-- A field adds its key at the end. -/
@[simp]
theorem keys_field (f : Fields K R (A → B)) (key : String) (c : JsonCodec K A) (get : R → A)
    (default : Option A) : (f.field key c get default).keys = f.keys ++ [key] := rfl

/-- So does an optional one. -/
@[simp]
theorem keys_optional (f : Fields K R (Option A → B)) (key : String) (c : JsonCodec K A)
    (get : R → Option A) : (f.optional key c get).keys = f.keys ++ [key] := rfl

/-- Before the first field nothing is written. -/
@[simp]
theorem dump_build (mk : A) (excl : Bool) (r : R) :
    (build mk : Fields K R A).dump excl r = [] := rfl

/-- A field adds its entry at the end. -/
@[simp]
theorem dump_field (f : Fields K R (A → B)) (key : String) (c : JsonCodec K A) (get : R → A)
    (default : Option A) (excl : Bool) (r : R) :
    (f.field key c get default).dump excl r = f.dump excl r ++ [(key, c.dump excl (get r))] := rfl

/-- An optional one adds an entry or none. -/
@[simp]
theorem dump_optional (f : Fields K R (Option A → B)) (key : String) (c : JsonCodec K A)
    (get : R → Option A) (excl : Bool) (r : R) :
    (f.optional key c get).dump excl r =
      f.dump excl r ++ (singleOptional key c get).dump excl r := rfl

/-- What is read of an object depends on its values at the keys. -/
def Local (f : Fields K R A) : Prop :=
  ∀ d d', (∀ k ∈ f.keys, d.lookup k = d'.lookup k) → f.parse d = f.parse d'

theorem local_build (mk : A) : (build mk : Fields K R A).Local :=
  fun _ _ _ ↦ rfl

/-- A field looks at its own key only. -/
theorem Local.field {f : Fields K R (A → B)} (hf : f.Local) {key : String} {c : JsonCodec K A}
    {get : R → A} {default : Option A} : (f.field key c get default).Local := by
  intro d d' h
  have hfst : f.parse d = f.parse d' := hf d d' fun k hk ↦ h k (List.mem_append_left _ hk)
  have hkey : d.lookup key = d'.lookup key :=
    h key (List.mem_append_right _ (List.mem_singleton_self key))
  show (f.parse d).bind _ = (f.parse d').bind _
  rw [hfst]
  simp only [single, hkey]

/-- The record of a JSON object, no key of which may be unknown. -/
def validate (f : Fields K R R) : Json K → Option R
  | .obj d => if d.all (fun e ↦ f.keys.contains e.1) then f.parse d else none
  | _ => none

/-- What agrees with a dumped record on all of its keys, and has no other, is read as that record.
-/
theorem validate_of_agree (f : Fields K R R) (hkeys : f.keys.Nodup) (excl : Bool) (r : R)
    {d : List (String × Json K)} (hd : ∀ e ∈ d, e.1 ∈ f.keys)
    (h : ∀ k ∈ f.keys, d.lookup k = (f.dump excl r).lookup k) :
    f.validate (.obj d) = some (f.out r) := by
  have hall : d.all (fun e ↦ f.keys.contains e.1) = true := by simpa using hd
  rw [validate, if_pos hall, f.parse_of_agree hkeys excl r d h]

/-- The codec of a record from its fields. -/
def record (f : Fields K R R) (hkeys : f.keys.Nodup) (hout : ∀ r, f.out r = r) :
    JsonCodec K R where
  dump excl r := .obj (f.dump excl r)
  validate := f.validate
  validate_null := rfl
  validate_dump excl r := by
    rw [f.validate_of_agree hkeys excl r (f.key_mem excl r) fun _ _ ↦ rfl, hout]

end Fields

end VertexTestbed
