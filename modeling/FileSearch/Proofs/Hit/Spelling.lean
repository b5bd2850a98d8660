import FileSearch.Hit.Record

/-!
# What a record says of a hit

The reader of a record succeeds with a hit exactly if the fields spell out that hit: the hash
and the size as they are, the name and the count of sources unless they are left to their
defaults, and everything else as further fields.
-/

set_option autoImplicit false

namespace FileSearch.Hit

def Unset (fields : Json.Fields) (name : String) : Prop :=
  fields.get? name = none ∨ fields.get? name = some .null

structure Spells (fields : Json.Fields) (h : Hit) : Prop where
  hash : fields.get? "hash" = some (.text h.hash)
  size : fields.get? "size" = some (.int h.size) ∧ 0 ≤ h.size
  name : Unset fields "name" ∧ h.name = "" ∨ fields.get? "name" = some (.text h.name)
  sources : Unset fields "sources" ∧ h.sources = 0 ∨
    fields.get? "sources" = some (.int h.sources) ∧ 0 ≤ h.sources
  extra : h.extra = fields.filter (!isCore ·.1)

theorem text_ne_null (s : String) : Json.text s ≠ .null := by
  intro h
  cases h

theorem int_ne_null (n : Int) : Json.int n ≠ .null := by
  intro h
  cases h

section
variable {fields : Json.Fields} {name : String} {value : Json}

theorem required_ok : required fields name = .ok value ↔ fields.get? name = some value := by
  rw [required]
  cases fields.get? name with
  | none => simp
  | some found => simp

theorem string_ok {s : String} : string name value = .ok s ↔ value = .text s := by
  cases value <;> simp [string]

theorem count_ok {n : Int} : count name value = .ok n ↔ value = .int n ∧ 0 ≤ n := by
  cases value with
  | int m =>
    rw [count]
    split
    · simp only [reduceCtorEq, Json.int.injEq, false_iff]
      omega
    · simp only [Except.ok.injEq, Json.int.injEq]
      omega
  | _ => simp [count]

theorem optional_ok {α : Type} {default a : α} {read : String → Json → Except Fault α} :
    optional fields name default read = .ok a ↔
      Unset fields name ∧ a = default ∨
        ∃ value, fields.get? name = some value ∧ value ≠ .null ∧ read name value = .ok a := by
  rw [optional, Unset]
  cases fields.get? name with
  | none => simp [eq_comm]
  | some value => cases value <;> simp [eq_comm]

theorem bind_ok {ε α β : Type} {x : Except ε α} {f : α → Except ε β} {b : β} :
    x >>= f = .ok b ↔ ∃ a, x = .ok a ∧ f a = .ok b := by
  cases x <;> simp [bind, Except.bind]

theorem bind_error {ε α β : Type} {x : Except ε α} {f : α → Except ε β} {e : ε} :
    x >>= f = .error e ↔ x = .error e ∨ ∃ a, x = .ok a ∧ f a = .error e := by
  cases x <;> simp [bind, Except.bind]

end

theorem of_fields_iff {fields : Json.Fields} {h : Hit} :
    ofFields fields = .ok h ↔ Spells fields h := by
  simp only [ofFields, bind_ok, required_ok, string_ok, count_ok, optional_ok, Except.ok.injEq]
  constructor
  · rintro ⟨_, hhash, _, hsize, s, rfl, n, ⟨rfl, hn⟩, t, hname, m, hsources, rfl⟩
    refine ⟨hhash, ⟨hsize, hn⟩, hname.imp_right ?_, hsources.imp_right ?_, rfl⟩
    · rintro ⟨_, hname, -, rfl⟩
      exact hname
    · rintro ⟨_, hsources, -, rfl, hm⟩
      exact ⟨hsources, hm⟩
  · intro hspells
    obtain ⟨hhash, ⟨hsize, hn⟩, hname, hsources, hextra⟩ := hspells
    refine ⟨_, hhash, _, hsize, _, rfl, _, ⟨rfl, hn⟩, _, hname.imp_right ?_, _,
      hsources.imp_right ?_, by rw [← hextra]⟩
    · intro hname
      exact ⟨_, hname, text_ne_null _, rfl⟩
    · rintro ⟨hsources, hm⟩
      exact ⟨_, hsources, int_ne_null _, rfl, hm⟩

theorem of_json_iff {record : Json} {h : Hit} :
    ofJson record = .ok h ↔ ∃ fields, record = .object fields ∧ Spells fields h := by
  cases record with
  | object fields => simp [ofJson, of_fields_iff]
  | _ => simp [ofJson]

theorem read_record_iff {place : String} {record : Json} {h : Hit} :
    readRecord place record = .ok h ↔ ofJson record = .ok h := by
  rw [readRecord]
  cases ofJson record with
  | ok found => constructor <;> rintro ⟨⟩ <;> rfl
  | error fault => constructor <;> rintro ⟨⟩

end FileSearch.Hit
