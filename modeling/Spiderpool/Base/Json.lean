/-
# Documents that are written and read field by field

`encoding/json`, on the tree of a document. A struct is written as an object, from which the fields
with `omitempty` are left out that are empty (`assemble`); an object is read into a struct by taking,
for each field, what stands under its name (`readField`). A name that is missing, or that stands
before a null, leaves the field as it was.

A `Codec` writes the values of a type and reads them back.
-/

import Spiderpool.Base.Go

namespace Spiderpool

/-- A document. Numbers are whole. -/
inductive JsonValue where
  | null
  | bool (b : Bool)
  | num (n : ℤ)
  | str (s : String)
  | arr (items : List JsonValue)
  | obj (fields : List (String × JsonValue))

namespace JsonValue

/-- What an error calls the value. -/
def kind : JsonValue → String
  | null => "null"
  | bool _ => "bool"
  | num n => "number " ++ toString n
  | str _ => "string"
  | arr _ => "array"
  | obj _ => "object"

/-- How the values of a type are written, and read back. -/
structure Codec (α : Type) where
  encode : α → JsonValue
  decode : JsonValue → Option α
  decode_encode : ∀ a, decode (encode a) = some a
  encode_ne_null : ∀ a, encode a ≠ null

namespace Codec

def string : Codec String where
  encode := str
  decode
    | str s => some s
    | _ => none
  decode_encode _ := rfl
  encode_ne_null _ := nofun

def bool : Codec Bool where
  encode := .bool
  decode
    | .bool b => some b
    | _ => none
  decode_encode _ := rfl
  encode_ne_null _ := nofun

/-- `int` and `int64`; a number that does not fit is refused. -/
def int64 : Codec Int64 where
  encode n := num n.toInt
  decode
    | num n => if -2 ^ 63 ≤ n ∧ n < 2 ^ 63 then some (.ofInt n) else none
    | _ => none
  decode_encode n := by
    dsimp only
    rw [if_pos ⟨n.le_toInt, n.toInt_lt⟩, Int64.ofInt_toInt]
  encode_ne_null _ := nofun

/-- `int32`; a number that does not fit is refused. -/
def int32 : Codec Int32 where
  encode n := num n.toInt
  decode
    | num n => if -2 ^ 31 ≤ n ∧ n < 2 ^ 31 then some (.ofInt n) else none
    | _ => none
  decode_encode n := by
    dsimp only
    rw [if_pos ⟨n.le_toInt, n.toInt_lt⟩, Int32.ofInt_toInt]
  encode_ne_null _ := nofun

/-- A number that is read is the one that is written there. -/
theorem toInt_of_decode_int32 {n : ℤ} {x : Int32} (h : int32.decode (num n) = some x) :
    x.toInt = n := by
  simp only [int32] at h
  split_ifs at h with hfits
  obtain rfl := Option.some.inj h
  exact Int32.toInt_ofInt_of_le hfits.1 hfits.2

/-- An element of a slice: a null is read as the zero value. -/
def element {α : Type} (zero : α) (c : Codec α) : JsonValue → Option α
  | null => some zero
  | v => c.decode v

theorem element_encode {α : Type} (zero : α) (c : Codec α) (a : α) :
    element zero c (c.encode a) = some a := by
  rw [← c.decode_encode a, element]
  exact c.encode_ne_null a

def slice {α : Type} (zero : α) (c : Codec α) : Codec (List α) where
  encode as := arr (as.map c.encode)
  decode
    | arr items => items.mapM (element zero c)
    | _ => none
  decode_encode as := by
    show (as.map c.encode).mapM (element zero c) = some as
    induction as with
    | nil => rfl
    | cons a as ih => simp [List.mapM_cons, element_encode, ih]
  encode_ne_null _ := nofun

end Codec

variable {α : Type} {c : Codec α} {fields : List (String × JsonValue)} {name : String}

/-- What stands under a name; of several values it is the last that counts. -/
def field (fields : List (String × JsonValue)) (name : String) : Option JsonValue :=
  (fields.reverse.find? (·.1 = name)).map Prod.snd

/-- A field of the struct `Config` is read: none, if there is nothing to be read. -/
def readField (c : Codec α) (goType : String) (fields : List (String × JsonValue)) (name : String) :
    Result String (Option α) :=
  match field fields name with
  | none | some null => .ok none
  | some v =>
    match c.decode v with
    | some a => .ok (some a)
    | none => fail ("json: cannot unmarshal " ++ v.kind ++ " into Go struct field Config." ++ name ++
        " of type " ++ goType)

/-- A field that has been written is read as it was. -/
theorem readField_of_encode {goType : String} {o : Option α}
    (h : field fields name = o.map c.encode) : readField c goType fields name = .ok o := by
  cases o with
  | none => simp [readField, h]
  | some a =>
    have hne := c.encode_ne_null a
    have hdecode := c.decode_encode a
    rw [readField, h, Option.map_some]
    revert hne hdecode
    generalize c.encode a = v
    intro hne hdecode
    cases v <;> simp_all

/-- A number that is read into fewer bits than it was written from is the same number. -/
theorem toInt_of_readField_int32 {goType : String} {o : Option Int64} {o' : Option Int32}
    (h : field fields name = o.map Codec.int64.encode)
    (hread : readField .int32 goType fields name = .ok o') :
    o'.map Int32.toInt = o.map Int64.toInt := by
  rw [readField, h] at hread
  cases o with
  | none =>
    obtain rfl := Except.ok.inj hread
    rfl
  | some n =>
    have hencode : Codec.int64.encode n = num n.toInt := rfl
    rw [Option.map_some, hencode] at hread
    dsimp only at hread
    cases hdecode : Codec.int32.decode (num n.toInt) with
    | none =>
      rw [hdecode] at hread
      cases hread
    | some x =>
      rw [hdecode] at hread
      obtain rfl := Except.ok.inj hread
      exact congrArg some (Codec.toInt_of_decode_int32 hdecode)

/-- The fields of an object, those that are empty left out. -/
def assemble (entries : List (String × Option JsonValue)) : List (String × JsonValue) :=
  entries.filterMap fun e => e.2.map fun v => (e.1, v)

theorem names_assemble (entries : List (String × Option JsonValue)) :
    ((assemble entries).map Prod.fst).Sublist (entries.map Prod.fst) := by
  induction entries with
  | nil => exact .refl _
  | cons e entries ih =>
    obtain ⟨n, - | v⟩ := e
    · exact ih.cons n
    · exact ih.cons_cons n

theorem field_eq_none (h : name ∉ fields.map Prod.fst) : field fields name = none := by
  rw [field, Option.map_eq_none_iff, List.find?_eq_none]
  intro f hf heq
  refine h (List.mem_map.2 ⟨f, List.mem_reverse.1 hf, ?_⟩)
  exact of_decide_eq_true heq

theorem field_eq_some {v : JsonValue} (hnames : (fields.map Prod.fst).Nodup)
    (h : (name, v) ∈ fields) : field fields name = some v := by
  rw [field]
  cases hfind : fields.reverse.find? (·.1 = name) with
  | none =>
    have hnone := List.find?_eq_none.1 hfind (name, v) (List.mem_reverse.2 h)
    simp at hnone
  | some f =>
    have hname : f.1 = name := by simpa using List.find?_some hfind
    have hmem : f ∈ fields := List.mem_reverse.1 (List.mem_of_find?_eq_some hfind)
    rw [List.inj_on_of_nodup_map hnames hmem h hname]
    rfl

/-- Under a name stands what has been put there. -/
theorem field_assemble {entries : List (String × Option JsonValue)} {o : Option JsonValue}
    (hnames : (entries.map Prod.fst).Nodup) (h : (name, o) ∈ entries) :
    field (assemble entries) name = o := by
  cases o with
  | some v =>
    refine field_eq_some ((names_assemble entries).nodup hnames) ?_
    exact List.mem_filterMap.2 ⟨(name, some v), h, rfl⟩
  | none =>
    refine field_eq_none fun hmem => ?_
    obtain ⟨⟨n, v⟩, hf, rfl⟩ := List.mem_map.1 hmem
    obtain ⟨e, he, hev⟩ := List.mem_filterMap.1 hf
    obtain ⟨w, hw, heq⟩ := Option.map_eq_some_iff.1 hev
    have hname : e.1 = n := congrArg Prod.fst heq
    obtain rfl := List.inj_on_of_nodup_map hnames he h hname
    cases hw

/-- Under any other name stands nothing. -/
theorem field_assemble_of_not_mem {entries : List (String × Option JsonValue)}
    (h : name ∉ entries.map Prod.fst) : field (assemble entries) name = none :=
  field_eq_none fun hmem => h ((names_assemble entries).subset hmem)

end JsonValue

end Spiderpool
