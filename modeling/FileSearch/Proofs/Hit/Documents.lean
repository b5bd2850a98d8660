import FileSearch.Proofs.Hit.Spelling

/-!
# Which documents are read

A document is read if all its items are sound, and gives one hit for each of its records, in
order. Of any other document the first place that is at fault is refused. Items and the records
of a block are gone through in the same way, which is told once.
-/

set_option autoImplicit false

namespace FileSearch.Hit

def readEach (read : Nat → Json → Except Refusal (List Hit)) (i : Nat) :
    List Json → Except Refusal (List Hit)
  | [] => .ok []
  | value :: values => do
    let hits ← read i value
    let more ← readEach read (i + 1) values
    .ok (hits ++ more)

section
variable {read : Nat → Json → Except Refusal (List Hit)} {values : List Json} {i : Nat}

theorem each_ok {sound : Json → Prop} {records : Json → List Json} {hits : List Hit}
    (hread : ∀ i value hits, read i value = .ok hits ↔
      sound value ∧ (records value).map ofJson = hits.map .ok) :
    readEach read i values = .ok hits ↔
      (∀ value ∈ values, sound value) ∧
        (values.flatMap records).map ofJson = hits.map .ok := by
  induction values generalizing i hits with
  | nil =>
    rw [readEach]
    simp [eq_comm]
  | cons value values ih =>
    simp only [readEach, bind_ok, hread, ih, List.forall_mem_cons, List.flatMap_cons,
      List.map_append, Except.ok.injEq]
    constructor
    · rintro ⟨found, ⟨hvalue, hfound⟩, more, ⟨hvalues, hmore⟩, rfl⟩
      exact ⟨⟨hvalue, hvalues⟩, by rw [List.map_append, hfound, hmore]⟩
    · rintro ⟨⟨hvalue, hvalues⟩, hall⟩
      obtain ⟨found, more, rfl, hfound, hmore⟩ := List.append_eq_map_iff.1 hall
      exact ⟨found, ⟨hvalue, hfound.symm⟩, more, ⟨hvalues, hmore.symm⟩, rfl⟩

theorem each_error {refusal : Refusal} :
    readEach read i values = .error refusal ↔
      ∃ k value, values[k]? = some value ∧ read (i + k) value = .error refusal ∧
        ∀ m < k, ∀ other, values[m]? = some other → ∃ hits, read (i + m) other = .ok hits := by
  induction values generalizing i with
  | nil => simp [readEach]
  | cons value values ih =>
    simp only [readEach, bind_error, ih, reduceCtorEq, and_false, exists_false, or_false]
    constructor
    · rintro (hfirst | ⟨hits, hfirst, k, other, hother, hrefused, hearlier⟩)
      · exact ⟨0, value, rfl, hfirst, fun m hm => absurd hm (Nat.not_lt_zero m)⟩
      · refine ⟨k + 1, other, hother, by rwa [← Nat.add_assoc, Nat.add_right_comm], ?_⟩
        rintro (_ | m) hm later hlater
        · cases hlater
          exact ⟨hits, hfirst⟩
        · have hread := hearlier m (Nat.lt_of_succ_lt_succ hm) later hlater
          rwa [← Nat.add_assoc, Nat.add_right_comm]
    · rintro ⟨_ | k, other, hother, hrefused, hearlier⟩
      · cases hother
        exact .inl hrefused
      · obtain ⟨hits, hfirst⟩ := hearlier 0 (Nat.succ_pos k) value rfl
        refine .inr ⟨hits, hfirst, k, other, hother,
          by rwa [Nat.add_right_comm, Nat.add_assoc], ?_⟩
        intro m hm later hlater
        have hread := hearlier (m + 1) (Nat.succ_lt_succ hm) later hlater
        rwa [Nat.add_right_comm, Nat.add_assoc]

theorem readings_iff {records : List Json} :
    (∀ record ∈ records, ∃ h, ofJson record = .ok h) ↔
      ∃ hits : List Hit, records.map ofJson = hits.map .ok := by
  induction records with
  | nil => exact ⟨fun _ => ⟨[], rfl⟩, fun _ _ h => by cases h⟩
  | cons record records ih =>
    rw [List.forall_mem_cons, ih]
    constructor
    · rintro ⟨⟨h, hread⟩, hits, hreads⟩
      exact ⟨h :: hits, by rw [List.map_cons, List.map_cons, hread, hreads]⟩
    · rintro ⟨_ | ⟨h, hits⟩, hreads⟩
      · cases hreads
      · obtain ⟨hread, hrest⟩ := List.cons.inj hreads
        exact ⟨⟨h, hread⟩, hits, hrest⟩

end

def held? : Json → Option Json
  | .object fields => Json.Fields.get? fields "hits"
  | _ => none

def recordsOf (item : Json) : List Json :=
  match held? item with
  | some (.list records) => records
  | some _ => []
  | none => [item]

inductive Sound (item : Json) : Prop
  | plain (hheld : held? item = none) (hread : ∃ h, ofJson item = .ok h)
  | block {records : List Json} (hheld : held? item = some (.list records))
    (hread : ∀ record ∈ records, ∃ h, ofJson record = .ok h)

inductive Spot where
  | whole
  | hits
  | record (j : Nat)

def Spot.label (place : String) : Spot → String
  | .whole => place
  | .hits => place ++ ".hits"
  | .record j => indexed (place ++ ".hits") j

def Spot.rank : Spot → Nat
  | .whole => 0
  | .hits => 0
  | .record j => j

def Spot.refusal (place : String) (fault : Fault) : Spot → Refusal
  | .whole => ⟨place, fault⟩
  | .hits => ⟨place, fault⟩
  | .record j => ⟨indexed (place ++ ".hits") j, fault⟩

inductive Spoils (item : Json) : Spot → Fault → Prop
  | whole {fault : Fault} (hheld : held? item = none) (hfault : ofJson item = .error fault) :
    Spoils item .whole fault
  | hits {held : Json} (hheld : held? item = some held) (hwrong : ∀ records, held ≠ .list records) :
    Spoils item .hits .hitsNotList
  | record {records : List Json} {record : Json} {j : Nat} {fault : Fault}
    (hheld : held? item = some (.list records)) (hrecord : records[j]? = some record)
    (hfault : ofJson record = .error fault) : Spoils item (.record j) fault

section
variable {place : String} {item held : Json} {records : List Json} {hits : List Hit}

theorem records_plain (hheld : held? item = none) : recordsOf item = [item] := by
  rw [recordsOf, hheld]

theorem records_block (hheld : held? item = some (.list records)) : recordsOf item = records := by
  rw [recordsOf, hheld]

theorem records_unlisted (hheld : held? item = some held)
    (hwrong : ∀ records, held ≠ .list records) : recordsOf item = [] := by
  rw [recordsOf, hheld]
  cases held with
  | list records => exact absurd rfl (hwrong records)
  | _ => rfl

theorem read_plain (h : held? item = none) :
    readItem place item = (readRecord place item).map ([·]) := by
  cases item with
  | object fields =>
    have hget : Json.Fields.get? fields "hits" = none := h
    rw [readItem, hget]
  | _ => rfl

theorem read_block (h : held? item = some (.list records)) :
    readItem place item = readRecords (place ++ ".hits") 0 records := by
  cases item with
  | object fields =>
    have hget : Json.Fields.get? fields "hits" = some (.list records) := h
    rw [readItem, hget]
  | _ => cases h

theorem read_unlisted (h : held? item = some held) (hwrong : ∀ records, held ≠ .list records) :
    readItem place item = .error ⟨place, .hitsNotList⟩ := by
  cases item with
  | object fields =>
    have hget : Json.Fields.get? fields "hits" = some held := h
    rw [readItem, hget]
    cases held with
    | list records => exact absurd rfl (hwrong records)
    | _ => rfl
  | _ => cases h

theorem held_cases (item : Json) :
    held? item = none ∨ (∃ records, held? item = some (.list records)) ∨
      ∃ held, held? item = some held ∧ ∀ records, held ≠ .list records := by
  cases hheld : held? item with
  | none => exact .inl rfl
  | some held =>
    cases held with
    | list records => exact .inr (.inl ⟨records, rfl⟩)
    | _ => exact .inr (.inr ⟨_, rfl, by rintro records ⟨⟩⟩)

theorem readable_iff {record : Json} :
    (∃ h, ofJson record = .ok h) ↔ ∀ fault, ofJson record ≠ .error fault := by
  cases ofJson record <;> simp

theorem sound_plain (hheld : held? item = none) : Sound item ↔ ∃ h, ofJson item = .ok h := by
  constructor
  · rintro (⟨-, hread⟩ | ⟨hother, -⟩)
    · exact hread
    · cases hheld.symm.trans hother
  · exact .plain hheld

theorem sound_block (hheld : held? item = some (.list records)) :
    Sound item ↔ ∀ record ∈ records, ∃ h, ofJson record = .ok h := by
  constructor
  · rintro (⟨hother, -⟩ | ⟨hother, hread⟩)
    · cases hheld.symm.trans hother
    · cases hheld.symm.trans hother
      exact hread
  · exact .block hheld

theorem not_sound_unlisted (hheld : held? item = some held)
    (hwrong : ∀ records, held ≠ .list records) : ¬ Sound item := by
  rintro (⟨hother, -⟩ | ⟨hother, -⟩)
  · cases hheld.symm.trans hother
  · exact hwrong _ (Option.some.inj (hheld.symm.trans hother))

theorem spoils_plain (hheld : held? item = none) {spot : Spot} {fault : Fault} :
    Spoils item spot fault ↔ spot = .whole ∧ ofJson item = .error fault := by
  constructor
  · rintro (⟨-, hfault⟩ | ⟨hother, -⟩ | ⟨hother, -, -⟩)
    · exact ⟨rfl, hfault⟩
    · cases hheld.symm.trans hother
    · cases hheld.symm.trans hother
  · rintro ⟨rfl, hfault⟩
    exact .whole hheld hfault

theorem spoils_block (hheld : held? item = some (.list records)) {spot : Spot} {fault : Fault} :
    Spoils item spot fault ↔
      ∃ j record, spot = .record j ∧ records[j]? = some record ∧ ofJson record = .error fault := by
  constructor
  · rintro (⟨hother, -⟩ | ⟨hother, hwrong⟩ | ⟨hother, hrecord, hfault⟩)
    · cases hheld.symm.trans hother
    · exact absurd (Option.some.inj (hother.symm.trans hheld)) (hwrong records)
    · cases hheld.symm.trans hother
      exact ⟨_, _, rfl, hrecord, hfault⟩
  · rintro ⟨j, record, rfl, hrecord, hfault⟩
    exact .record hheld hrecord hfault

theorem spoils_unlisted (hheld : held? item = some held)
    (hwrong : ∀ records, held ≠ .list records) {spot : Spot} {fault : Fault} :
    Spoils item spot fault ↔ spot = .hits ∧ fault = .hitsNotList := by
  constructor
  · rintro (⟨hother, -⟩ | - | ⟨hother, -, -⟩)
    · cases hheld.symm.trans hother
    · exact ⟨rfl, rfl⟩
    · exact absurd (Option.some.inj (hheld.symm.trans hother)) (hwrong _)
  · rintro ⟨rfl, rfl⟩
    exact .hits hheld hwrong

theorem sound_iff : Sound item ↔ ∀ spot fault, ¬ Spoils item spot fault := by
  rcases held_cases item with hheld | ⟨records, hheld⟩ | ⟨held, hheld, hwrong⟩
  · simp only [sound_plain hheld, spoils_plain hheld, readable_iff]
    constructor
    · rintro h _ fault ⟨-, hfault⟩
      exact h fault hfault
    · exact fun h fault hfault => h .whole fault ⟨rfl, hfault⟩
  · simp only [sound_block hheld, spoils_block hheld, readable_iff]
    constructor
    · rintro h _ fault ⟨j, record, -, hrecord, hfault⟩
      exact h record (List.mem_of_getElem? hrecord) fault hfault
    · intro h record hrecord fault hfault
      obtain ⟨j, hj⟩ := List.mem_iff_getElem?.1 hrecord
      exact h (.record j) fault ⟨j, record, rfl, hj, hfault⟩
  · simp only [not_sound_unlisted hheld hwrong, spoils_unlisted hheld hwrong, false_iff]
    intro h
    exact h .hits .hitsNotList ⟨rfl, rfl⟩

theorem single_ok {record : Json} :
    (readRecord place record).map ([·]) = .ok hits ↔ [record].map ofJson = hits.map .ok := by
  rw [readRecord, List.map_singleton]
  cases ofJson record with
  | error fault =>
    constructor
    · rintro ⟨⟩
    · intro h
      cases hits <;> cases h
  | ok found =>
    constructor
    · rintro ⟨⟩
      rfl
    · intro h
      obtain ⟨hit, rfl, hhit⟩ := List.map_eq_singleton_iff.1 h.symm
      cases hhit
      rfl

theorem single_error {record : Json} {refusal : Refusal} :
    (readRecord place record).map ([·]) = .error refusal ↔
      ∃ fault, ofJson record = .error fault ∧ refusal = ⟨place, fault⟩ := by
  rw [readRecord]
  cases ofJson record with
  | error fault =>
    constructor
    · rintro ⟨⟩
      exact ⟨fault, rfl, rfl⟩
    · rintro ⟨_, ⟨⟩, rfl⟩
      rfl
  | ok found =>
    constructor
    · rintro ⟨⟩
    · rintro ⟨_, ⟨⟩, -⟩

theorem records_each (place : String) (i : Nat) (records : List Json) :
    readRecords place i records =
      readEach (fun j record => (readRecord (indexed place j) record).map ([·])) i records := by
  induction records generalizing i with
  | nil => rfl
  | cons record records ih =>
    rw [readRecords, readEach, ih]
    cases readRecord (indexed place i) record <;> rfl

theorem items_each (place : String) (i : Nat) (items : List Json) :
    readItems place i items =
      readEach (fun k item => readItem (indexed place k) item) i items := by
  induction items generalizing i with
  | nil => rfl
  | cons item items ih => rw [readItems, readEach, ih]

theorem records_ok {i : Nat} :
    readRecords place i records = .ok hits ↔ records.map ofJson = hits.map .ok := by
  have hread : ∀ (j : Nat) (record : Json) (found : List Hit),
      (readRecord (indexed place j) record).map ([·]) = .ok found ↔
        True ∧ [record].map ofJson = found.map .ok := by
    intro j record found
    rw [single_ok, true_and]
  rw [records_each, each_ok hread, List.flatMap_singleton']
  simp only [implies_true, true_and]

theorem records_error {refusal : Refusal} :
    readRecords place 0 records = .error refusal ↔
      ∃ j record, records[j]? = some record ∧
        (∃ fault, ofJson record = .error fault ∧ refusal = ⟨indexed place j, fault⟩) ∧
        ∀ m < j, ∀ other, records[m]? = some other → ∃ h, ofJson other = .ok h := by
  simp only [records_each, each_error, single_error, single_ok, Nat.zero_add, ← readings_iff,
    List.mem_singleton, forall_eq]

theorem item_ok :
    readItem place item = .ok hits ↔
      Sound item ∧ (recordsOf item).map ofJson = hits.map .ok := by
  rcases held_cases item with hheld | ⟨records, hheld⟩ | ⟨held, hheld, hwrong⟩
  · rw [read_plain hheld, single_ok, sound_plain hheld, records_plain hheld, iff_and_self]
    exact fun h => readings_iff.2 ⟨hits, h⟩ item List.mem_cons_self
  · rw [read_block hheld, records_ok, sound_block hheld, records_block hheld, iff_and_self]
    exact fun h => readings_iff.2 ⟨hits, h⟩
  · rw [read_unlisted hheld hwrong]
    constructor
    · rintro ⟨⟩
    · rintro ⟨hsound, -⟩
      exact absurd hsound (not_sound_unlisted hheld hwrong)

theorem sound_readable (hsound : Sound item) :
    ∀ record ∈ recordsOf item, ∃ h, ofJson record = .ok h := by
  intro record hrecord
  rcases hsound with ⟨hheld, hread⟩ | ⟨hheld, hread⟩
  · rw [records_plain hheld] at hrecord
    rw [List.mem_singleton.1 hrecord]
    exact hread
  · rw [records_block hheld] at hrecord
    exact hread record hrecord

theorem item_read : (∃ hits, readItem place item = .ok hits) ↔ Sound item := by
  simp only [item_ok, exists_and_left, ← readings_iff, and_iff_left_iff_imp]
  exact sound_readable

/-- The fault of an item that is a block is that of its first record that is at fault. -/
theorem item_error {refusal : Refusal} :
    readItem place item = .error refusal ↔
      ∃ spot fault, Spoils item spot fault ∧
        (∀ other otherFault, Spoils item other otherFault → spot.rank ≤ other.rank) ∧
        refusal = spot.refusal place fault := by
  rcases held_cases item with hheld | ⟨records, hheld⟩ | ⟨held, hheld, hwrong⟩
  · simp only [read_plain hheld, single_error, spoils_plain hheld]
    constructor
    · rintro ⟨fault, hfault, rfl⟩
      exact ⟨.whole, fault, ⟨rfl, hfault⟩, fun _ _ _ => Nat.zero_le _, rfl⟩
    · rintro ⟨_, fault, ⟨rfl, hfault⟩, -, rfl⟩
      exact ⟨fault, hfault, rfl⟩
  · simp only [read_block hheld, records_error, spoils_block hheld, readable_iff]
    constructor
    · rintro ⟨j, record, hrecord, ⟨fault, hfault, rfl⟩, hearlier⟩
      refine ⟨.record j, fault, ⟨j, record, rfl, hrecord, hfault⟩, ?_, rfl⟩
      rintro _ otherFault ⟨m, other, rfl, hother, hwrong⟩
      exact Nat.le_of_not_lt fun hm => hearlier m hm other hother otherFault hwrong
    · rintro ⟨_, fault, ⟨j, record, rfl, hrecord, hfault⟩, hfirst, rfl⟩
      refine ⟨j, record, hrecord, ⟨fault, hfault, rfl⟩, ?_⟩
      intro m hm other hother otherFault hwrong
      exact Nat.not_lt.2 (hfirst (.record m) otherFault ⟨m, other, rfl, hother, hwrong⟩) hm
  · simp only [read_unlisted hheld hwrong, spoils_unlisted hheld hwrong]
    constructor
    · rintro ⟨⟩
      exact ⟨.hits, .hitsNotList, ⟨rfl, rfl⟩, fun _ _ _ => Nat.zero_le _, rfl⟩
    · rintro ⟨_, _, ⟨rfl, rfl⟩, -, rfl⟩
      rfl

end

inductive Place where
  | document
  | within (i : Nat) (spot : Spot)

def Place.label (location : String) : Place → String
  | .document => location
  | .within i spot => spot.label (indexed location i)

def Place.refusal (location : String) (fault : Fault) : Place → Refusal
  | .document => ⟨location, fault⟩
  | .within i spot => spot.refusal (indexed location i) fault

def Place.Before : Place → Place → Prop
  | .within i spot, .within k other => i < k ∨ i = k ∧ spot.rank < other.rank
  | _, _ => False

inductive Offends (data : Json) : Place → Fault → Prop
  | document (hdata : ∀ items, data ≠ .list items) : Offends data .document .notList
  | within {items : List Json} {item : Json} {i : Nat} {spot : Spot} {fault : Fault}
    (hdata : data = .list items) (hitem : items[i]? = some item)
    (hspoils : Spoils item spot fault) : Offends data (.within i spot) fault

structure First (data : Json) (place : Place) (fault : Fault) : Prop where
  offends : Offends data place fault
  earliest : ∀ other otherFault, Offends data other otherFault → ¬ other.Before place

section
variable {location : String} {data : Json} {items : List Json} {hits : List Hit}

theorem items_ok {i : Nat} :
    readItems location i items = .ok hits ↔
      (∀ item ∈ items, Sound item) ∧ (items.flatMap recordsOf).map ofJson = hits.map .ok := by
  rw [items_each]
  exact each_ok fun _ _ _ => item_ok

theorem document_ok :
    readDocument location data = .ok hits ↔
      ∃ items, data = .list items ∧ (∀ item ∈ items, Sound item) ∧
        (items.flatMap recordsOf).map ofJson = hits.map .ok := by
  cases data with
  | list items => simp [readDocument, items_ok]
  | _ => simp [readDocument]

theorem document_read :
    (∃ hits, readDocument location data = .ok hits) ↔
      ∃ items, data = .list items ∧ ∀ item ∈ items, Sound item := by
  simp only [document_ok]
  constructor
  · rintro ⟨hits, items, hdata, hsound, -⟩
    exact ⟨items, hdata, hsound⟩
  · rintro ⟨items, hdata, hsound⟩
    obtain ⟨hits, hreads⟩ := readings_iff.1 fun record hrecord => by
      obtain ⟨item, hitem, hrecord⟩ := List.mem_flatMap.1 hrecord
      exact sound_readable (hsound item hitem) record hrecord
    exact ⟨hits, items, hdata, hsound, hreads⟩

theorem read_no_list (hdata : ∀ items, data ≠ .list items) :
    readDocument location data = .error ⟨location, .notList⟩ := by
  cases data with
  | list items => exact absurd rfl (hdata items)
  | _ => rfl

theorem document_error {refusal : Refusal} :
    readDocument location data = .error refusal ↔
      ∃ place fault, First data place fault ∧ refusal = place.refusal location fault := by
  by_cases hlist : ∃ items, data = .list items
  · obtain ⟨items, rfl⟩ := hlist
    simp only [readDocument, items_each, each_error, item_error, item_read, Nat.zero_add]
    constructor
    · rintro ⟨k, item, hitem, ⟨spot, fault, hspoils, hleast, rfl⟩, hearlier⟩
      refine ⟨.within k spot, fault, ⟨.within rfl hitem hspoils, ?_⟩, rfl⟩
      rintro _ otherFault (- | ⟨hdata, hother, hwrong⟩) hbefore
      · exact hbefore
      · cases hdata
        rcases hbefore with hlt | ⟨rfl, hrank⟩
        · exact sound_iff.1 (hearlier _ hlt _ hother) _ _ hwrong
        · cases hitem.symm.trans hother
          exact Nat.not_lt.2 (hleast _ _ hwrong) hrank
    · rintro ⟨_, fault, ⟨hdata | ⟨hdata, hitem, hspoils⟩, hearliest⟩, rfl⟩
      · exact absurd rfl (hdata items)
      · cases hdata
        refine ⟨_, _, hitem, ⟨_, _, hspoils, fun other otherFault hwrong => ?_, rfl⟩, ?_⟩
        · exact Nat.le_of_not_lt fun hrank =>
            hearliest _ _ (.within rfl hitem hwrong) (.inr ⟨rfl, hrank⟩)
        · intro m hm other hother
          exact sound_iff.2 fun spot otherFault hwrong =>
            hearliest _ _ (.within rfl hother hwrong) (.inl hm)
  · have hdata : ∀ items, data ≠ .list items := fun items h => hlist ⟨items, h⟩
    rw [read_no_list hdata]
    constructor
    · rintro ⟨⟩
      refine ⟨.document, .notList, ⟨.document hdata, ?_⟩, rfl⟩
      rintro (- | _) otherFault - hbefore <;> exact hbefore
    · rintro ⟨_, _, ⟨- | ⟨hother, -, -⟩, -⟩, rfl⟩
      · rfl
      · exact absurd hother (hdata _)

end

theorem message_place (refusal : Refusal) :
    ∃ rest, refusal.message = refusal.place ++ rest := by
  obtain ⟨place, fault⟩ := refusal
  cases fault <;> simp only [Refusal.message, String.append_assoc] <;> exact ⟨_, rfl⟩

theorem message_label {data : Json} {place : Place} {fault : Fault}
    (h : Offends data place fault) (location : String) :
    ∃ rest, (place.refusal location fault).message = place.label location ++ rest := by
  cases h with
  | document => exact message_place _
  | within hdata hitem hspoils =>
    cases hspoils with
    | whole => exact message_place _
    | hits =>
      refine ⟨" must be a list", ?_⟩
      rw [Place.label, Spot.label, String.append_assoc]
      rfl
    | record => exact message_place _

structure Loads (location : String) (data : Json) : Prop where
  accepted : (∃ hits, readDocument location data = .ok hits) ↔
    ∃ items, data = .list items ∧ ∀ item ∈ items, Sound item
  /-- Each record gives one hit, in the order of the document. -/
  complete : ∀ hits, readDocument location data = .ok hits →
    ∃ items, data = .list items ∧ (items.flatMap recordsOf).map ofJson = hits.map .ok
  /-- What is refused is the first place that is at fault, for its own fault. -/
  refused : ∀ refusal, readDocument location data = .error refusal ↔
    ∃ place fault, First data place fault ∧ refusal = place.refusal location fault
  told : ∀ place fault, Offends data place fault →
    (place.refusal location fault).fault = fault ∧
      ∃ rest, (place.refusal location fault).message = place.label location ++ rest

theorem document_loads (location : String) (data : Json) : Loads location data where
  accepted := document_read
  complete := by
    intro hits hread
    obtain ⟨items, hdata, -, hreads⟩ := document_ok.1 hread
    exact ⟨items, hdata, hreads⟩
  refused _ := document_error
  told place fault hoffends := by
    refine ⟨?_, message_label hoffends location⟩
    rcases place with - | ⟨i, - | - | j⟩ <;> rfl

example : (Place.within 1 (.record 2)).label "results.json" = "results.json[1].hits[2]" := by
  decide +kernel

end FileSearch.Hit
