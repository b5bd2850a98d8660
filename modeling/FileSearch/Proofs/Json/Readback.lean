import FileSearch.Proofs.Json.Scalars
import FileSearch.Text.Lines

/-!
# Documents read back

A value without reals, in whose objects no name comes up twice, is read from the text that
is written for it. The reader is called with twice as many steps as there are characters,
which is enough: every value has a character of its own, and so has every comma and bracket.
-/

set_option autoImplicit false

namespace FileSearch.Json

/-- Values that are written without a loss: reals are rounded when they are read, and of two
fields with one name the second would count. -/
inductive Exact : Json → Prop
  | null : Exact .null
  | bool (b : Bool) : Exact (.bool b)
  | int (n : Int) : Exact (.int n)
  | text (s : String) : Exact (.text s)
  | list {items : List Json} (h : ∀ item ∈ items, Exact item) : Exact (.list items)
  | object {fields : List (String × Json)} (names : (fields.map (·.1)).Nodup)
    (h : ∀ field ∈ fields, Exact field.2) : Exact (.object fields)

theorem skip_space_solid {c : Char} (hc : isSpace c = false) (s : List Char) :
    skipSpace (c :: s) = c :: s := by
  simp [skipSpace, hc]

theorem skip_new_line (depth : Nat) (s : List Char) :
    skipSpace (newLine depth ++ s) = skipSpace s := by
  have hall : ∀ c ∈ newLine depth, isSpace c = true := by
    intro c hc
    rcases List.mem_cons.1 hc with rfl | hc
    · rfl
    · rw [List.eq_of_mem_replicate hc]
      rfl
  rw [skipSpace, List.dropWhile_append_of_pos hall, skipSpace]

theorem ends_new_line (depth : Nat) (s : List Char) : Ends (newLine depth ++ s) := by
  intro c hc
  exact .inr (Option.some.inj hc).symm

theorem ends_comma (s : List Char) : Ends (',' :: s) := by
  intro c hc
  exact .inl (Option.some.inj hc).symm

def Opens (s : List Char) : Prop :=
  ∃ c front, s = c :: front ∧ isSpace c = false ∧ c ≠ ']' ∧ c ≠ '\ufeff'

theorem digit_no_space {c : Char} (hc : c.isDigit = true) : isSpace c = false := by
  cases hspace : isSpace c with
  | false => rfl
  | true =>
    simp only [isSpace, Bool.or_eq_true, decide_eq_true_eq] at hspace
    rcases hspace with ((rfl | rfl) | rfl) | rfl <;> cases hc

theorem int_front (n : Int) :
    ∃ c front, (toString n).toList = c :: front ∧ (c = '-' ∨ c.isDigit = true) := by
  rw [int_text]
  split
  · obtain ⟨c, ds, hds⟩ := List.exists_cons_of_ne_nil (@Nat.toDigits_ne_nil n.toNat 10)
    exact ⟨c, ds, hds, .inr (digits_digit (hds ▸ List.mem_cons_self))⟩
  · exact ⟨'-', _, rfl, .inl rfl⟩

theorem print_opens (depth : Nat) {v : Json} (h : Exact v) : Opens (print depth v) := by
  cases h with
  | null => exact ⟨'n', _, rfl, by decide⟩
  | bool b => cases b <;> exact ⟨_, _, rfl, by decide⟩
  | int n =>
    obtain ⟨c, front, hfront, hc⟩ := int_front n
    have hsafe : isSpace c = false ∧ c ≠ ']' ∧ c ≠ '\ufeff' := by
      rcases hc with rfl | hc
      · decide
      · exact ⟨digit_no_space hc, digit_ne hc rfl, digit_ne hc rfl⟩
    exact ⟨c, front, hfront, hsafe⟩
  | text s => exact ⟨'"', _, rfl, by decide⟩
  | @list items _ =>
    cases items with
    | nil => exact ⟨'[', _, rfl, by decide⟩
    | cons item items => exact ⟨'[', _, rfl, by decide⟩
  | @object fields _ _ =>
    cases fields with
    | nil => exact ⟨'{', _, rfl, by decide⟩
    | cons field fields => exact ⟨'{', _, rfl, by decide⟩

theorem skip_space_opens {s : List Char} (h : Opens s) (rest : List Char) :
    skipSpace (s ++ rest) = s ++ rest := by
  obtain ⟨c, front, rfl, hc, -⟩ := h
  exact skip_space_solid hc _

section
variable {n : Nat} {s rest front : List Char} {c : Char}

theorem value_list {found : List Json} (hs : skipSpace s = c :: front) (hc : c ≠ ']')
    (h : items n (c :: front) = .ok (found, rest)) :
    value (n + 1) ('[' :: s) = .ok (.list found, rest) := by
  rw [value, hs]
  split
  · next hclosing => exact absurd (List.cons.inj hclosing).1 hc
  · rw [h]
    rfl

theorem value_object {found : List (String × Json)} (hs : skipSpace s = c :: front)
    (hc : c ≠ '}') (h : fields n (c :: front) = .ok (found, rest)) :
    value (n + 1) ('{' :: s) = .ok (.object (Fields.ofAssignments found), rest) := by
  rw [value, hs]
  split
  · next hclosing => exact absurd (List.cons.inj hclosing).1 hc
  · rw [h]
    rfl

theorem value_atom (hc : c ≠ '"') (hlist : c ≠ '[') (hobject : c ≠ '{') :
    value (n + 1) (c :: s) = atom (c :: s) := by
  rw [value]
  · rintro rest hs
    exact hc (List.cons.inj hs).1
  · rintro rest hs
    exact hlist (List.cons.inj hs).1
  · rintro rest hs
    exact hobject (List.cons.inj hs).1

theorem items_last {item : Json} (h : value n s = .ok (item, front))
    (hfront : skipSpace front = ']' :: rest) : items (n + 1) s = .ok ([item], rest) := by
  rw [items, h]
  simp only [bind, Except.bind, hfront]

theorem items_more {item : Json} {more : List Json} {next : List Char}
    (h : value n s = .ok (item, front)) (hfront : skipSpace front = ',' :: next)
    (hmore : items n (skipSpace next) = .ok (more, rest)) :
    items (n + 1) s = .ok (item :: more, rest) := by
  rw [items, h]
  simp only [bind, Except.bind, hfront, hmore]

theorem skip_colon {body : List Char} (hbody : skipSpace body = body) :
    skipSpace (':' :: ' ' :: body) = ':' :: ' ' :: body ∧ skipSpace (' ' :: body) = body := by
  refine ⟨skip_space_solid rfl _, ?_⟩
  have hblank : skipSpace (' ' :: body) = skipSpace body := rfl
  rw [hblank, hbody]

theorem fields_last {name : String} {field : Json} {body : List Char}
    (hname : string s = .ok (name, ':' :: ' ' :: body)) (hbody : skipSpace body = body)
    (h : value n body = .ok (field, front)) (hfront : skipSpace front = '}' :: rest) :
    fields (n + 1) ('"' :: s) = .ok ([(name, field)], rest) := by
  obtain ⟨hcolon, hblank⟩ := skip_colon hbody
  rw [fields, hname]
  simp only [bind, Except.bind, hcolon, hblank, h, hfront]

theorem fields_more {name : String} {field : Json} {more : List (String × Json)}
    {body next : List Char} (hname : string s = .ok (name, ':' :: ' ' :: body))
    (hbody : skipSpace body = body) (h : value n body = .ok (field, front))
    (hfront : skipSpace front = ',' :: next)
    (hmore : fields n (skipSpace next) = .ok (more, rest)) :
    fields (n + 1) ('"' :: s) = .ok ((name, field) :: more, rest) := by
  obtain ⟨hcolon, hblank⟩ := skip_colon hbody
  rw [fields, hname]
  simp only [bind, Except.bind, hcolon, hblank, h, hfront, hmore]

end

def Reads (v : Json) : Prop :=
  ∀ (depth n : Nat) (rest : List Char), 2 * (print depth v).length ≤ n → Ends rest →
    value n (print depth v ++ rest) = .ok (v, rest)

theorem items_print {item : Json} {more : List Json} (hexact : ∀ v ∈ item :: more, Exact v)
    (hreads : ∀ v ∈ item :: more, Reads v) (depth inner : Nat) {n : Nat} (rest : List Char)
    (hn : 2 * (print inner item ++ printItems inner more).length + 1 ≤ n) :
    items n (print inner item ++ (printItems inner more ++ (newLine depth ++ ']' :: rest))) =
      .ok (item :: more, rest) := by
  induction more generalizing item n with
  | nil =>
    obtain ⟨n, rfl⟩ : ∃ m, n = m + 1 := ⟨n - 1, by omega⟩
    rw [printItems, List.append_nil] at hn
    rw [printItems, List.nil_append]
    have hitem := hreads item (by simp) inner n _ (by omega) (ends_new_line depth (']' :: rest))
    apply items_last hitem
    rw [skip_new_line]
    exact skip_space_solid rfl rest
  | cons next more ih =>
    obtain ⟨n, rfl⟩ : ∃ m, n = m + 1 := ⟨n - 1, by omega⟩
    simp only [printItems, List.length_append, List.length_cons] at hn ih
    have hmore := ih (fun v hv => hexact v (List.mem_cons_of_mem _ hv))
      (fun v hv => hreads v (List.mem_cons_of_mem _ hv)) (n := n) (by omega)
    rw [printItems, List.append_assoc, List.append_assoc, List.cons_append]
    have hitem := hreads item (by simp) inner n _ (by omega) (ends_comma (newLine inner ++
      (print inner next ++ (printItems inner more ++ (newLine depth ++ ']' :: rest)))))
    apply items_more hitem (skip_space_solid rfl _)
    rw [skip_new_line, skip_space_opens (print_opens inner (hexact next (by simp)))]
    exact hmore

theorem print_field (inner : Nat) (name : String) (v : Json) (rest : List Char) :
    printField inner (name, v) ++ rest =
      '"' :: (name.toList.flatMap printChar ++ '"' :: (':' :: ' ' :: (print inner v ++ rest))) := by
  simp [printField, printText]

theorem skip_space_field (inner : Nat) (field : String × Json) (rest : List Char) :
    skipSpace (printField inner field ++ rest) = printField inner field ++ rest := by
  rw [print_field inner field.1 field.2]
  exact skip_space_solid rfl _

theorem fields_print {field : String × Json} {more : List (String × Json)}
    (hexact : ∀ f ∈ field :: more, Exact f.2) (hreads : ∀ f ∈ field :: more, Reads f.2)
    (depth inner : Nat) {n : Nat} (rest : List Char)
    (hn : 2 * (printField inner field ++ printFields inner more).length + 1 ≤ n) :
    fields n (printField inner field ++
        (printFields inner more ++ (newLine depth ++ '}' :: rest))) =
      .ok (field :: more, rest) := by
  induction more generalizing field n with
  | nil =>
    obtain ⟨n, rfl⟩ : ∃ m, n = m + 1 := ⟨n - 1, by omega⟩
    obtain ⟨name, v⟩ := field
    have hopens := print_opens inner (hexact (name, v) (by simp))
    rw [printFields, List.append_nil] at hn
    rw [printFields, List.nil_append, print_field]
    simp only [printField, List.length_append, List.length_cons] at hn
    have hvalue := hreads (name, v) (by simp) inner n _ (by dsimp only; omega)
      (ends_new_line depth ('}' :: rest))
    apply fields_last (string_text name _) (skip_space_opens hopens _) hvalue
    rw [skip_new_line]
    exact skip_space_solid rfl rest
  | cons next more ih =>
    obtain ⟨n, rfl⟩ : ∃ m, n = m + 1 := ⟨n - 1, by omega⟩
    obtain ⟨name, v⟩ := field
    have hopens := print_opens inner (hexact (name, v) (by simp))
    simp only [printFields, List.length_append, List.length_cons] at hn
    have hmore := ih (fun f hf => hexact f (List.mem_cons_of_mem _ hf))
      (fun f hf => hreads f (List.mem_cons_of_mem _ hf)) (n := n)
      (by rw [List.length_append]; omega)
    rw [printFields, List.append_assoc, List.append_assoc, List.cons_append, print_field]
    have hvalue := hreads (name, v) (by simp) inner n _
      (by simp only [printField, List.length_append, List.length_cons] at hn; dsimp only; omega)
      (ends_comma (newLine inner ++ (printField inner next ++
        (printFields inner more ++ (newLine depth ++ '}' :: rest)))))
    apply fields_more (string_text name _) (skip_space_opens hopens _) hvalue
      (skip_space_solid rfl _)
    rw [skip_new_line, skip_space_field]
    exact hmore

theorem set_new (name : String) (v : Json) {fields : Fields} (h : name ∉ fields.map (·.1)) :
    Fields.set name v fields = fields ++ [(name, v)] := by
  induction fields with
  | nil => rfl
  | cons field fields ih =>
    obtain ⟨other, w⟩ := field
    simp only [List.map_cons, List.mem_cons, not_or] at h
    rw [Fields.set, if_neg (Ne.symm h.1), ih h.2, List.cons_append]

theorem foldl_set_new {done assignments : Fields}
    (h : ((done ++ assignments).map (·.1)).Nodup) :
    assignments.foldl (fun fields a => Fields.set a.1 a.2 fields) done = done ++ assignments := by
  induction assignments generalizing done with
  | nil => rw [List.foldl_nil, List.append_nil]
  | cons a assignments ih =>
    have hnew : a.1 ∉ done.map (·.1) := by
      intro hmem
      rw [List.map_append, List.nodup_append] at h
      exact h.2.2 a.1 hmem a.1 (by simp) rfl
    rw [List.append_cons] at h
    rw [List.foldl_cons, set_new a.1 a.2 hnew, ih h, List.append_assoc, List.singleton_append]

theorem of_assignments_nodup {assignments : List (String × Json)}
    (h : (assignments.map (·.1)).Nodup) : Fields.ofAssignments assignments = assignments :=
  foldl_set_new h

theorem value_empty_list (n : Nat) (rest : List Char) :
    value (n + 1) ('[' :: ']' :: rest) = .ok (.list [], rest) := by
  simp [value, skipSpace, isSpace]

theorem value_empty_object (n : Nat) (rest : List Char) :
    value (n + 1) ('{' :: '}' :: rest) = .ok (.object [], rest) := by
  simp [value, skipSpace, isSpace]

theorem int_reads (i : Int) : Reads (.int i) := by
  intro depth n rest hn hrest
  have hatom := atom_int i hrest
  obtain ⟨c, front, hfront, hc⟩ := int_front i
  rw [print, hfront, List.length_cons] at hn
  obtain ⟨n, rfl⟩ : ∃ m, n = m + 1 := ⟨n - 1, by omega⟩
  have hne : c ≠ '"' ∧ c ≠ '[' ∧ c ≠ '{' := by
    rcases hc with rfl | hc
    · decide
    · exact ⟨digit_ne hc rfl, digit_ne hc rfl, digit_ne hc rfl⟩
  rw [hfront, List.cons_append] at hatom
  rw [print, hfront, List.cons_append, value_atom hne.1 hne.2.1 hne.2.2]
  exact hatom

theorem text_reads (s : String) : Reads (.text s) := by
  intro depth n rest hn hrest
  rw [print, printText, List.length_append, List.length_cons] at hn
  obtain ⟨n, rfl⟩ : ∃ m, n = m + 1 := ⟨n - 1, by omega⟩
  rw [print, printText, List.append_assoc, List.cons_append, List.singleton_append, value,
    string_text]
  rfl

theorem list_reads {items : List Json} (hexact : ∀ v ∈ items, Exact v)
    (hreads : ∀ v ∈ items, Reads v) : Reads (.list items) := by
  intro depth n rest hn hrest
  cases items with
  | nil =>
    obtain ⟨n, rfl⟩ : ∃ m, n = m + 1 := ⟨n - 1, by simp [print] at hn; omega⟩
    exact value_empty_list n rest
  | cons item more =>
    simp only [print, List.length_append, List.length_cons] at hn
    obtain ⟨n, rfl⟩ : ∃ m, n = m + 1 := ⟨n - 1, by omega⟩
    have hitems := items_print hexact hreads depth (depth + 1) (n := n) rest
      (by rw [List.length_append]; omega)
    have hopens := print_opens (depth + 1) (hexact item (by simp))
    have hskip := skip_space_opens hopens (printItems (depth + 1) more ++
      (newLine depth ++ ']' :: rest))
    obtain ⟨c, front, hfront, -, hclosing, -⟩ := hopens
    rw [print]
    simp only [List.cons_append, List.append_assoc, List.nil_append]
    rw [hfront, List.cons_append] at hitems hskip ⊢
    apply value_list _ hclosing hitems
    rw [skip_new_line, hskip]

theorem object_reads {fields : List (String × Json)} (names : (fields.map (·.1)).Nodup)
    (hexact : ∀ field ∈ fields, Exact field.2) (hreads : ∀ field ∈ fields, Reads field.2) :
    Reads (.object fields) := by
  intro depth n rest hn hrest
  cases fields with
  | nil =>
    obtain ⟨n, rfl⟩ : ∃ m, n = m + 1 := ⟨n - 1, by simp [print] at hn; omega⟩
    exact value_empty_object n rest
  | cons field more =>
    simp only [print, List.length_append, List.length_cons] at hn
    obtain ⟨n, rfl⟩ : ∃ m, n = m + 1 := ⟨n - 1, by omega⟩
    have hfields := fields_print hexact hreads depth (depth + 1) (n := n) rest
      (by rw [List.length_append]; omega)
    have hskip := skip_space_field (depth + 1) field (printFields (depth + 1) more ++
      (newLine depth ++ '}' :: rest))
    rw [print]
    simp only [List.cons_append, List.append_assoc, List.nil_append]
    rw [print_field (depth + 1) field.1 field.2] at hfields hskip ⊢
    rw [← of_assignments_nodup names]
    apply value_object _ (by decide) hfields
    rw [skip_new_line, hskip]

theorem exact_reads {v : Json} (h : Exact v) : Reads v := by
  induction h with
  | null =>
    intro depth n rest hn hrest
    obtain ⟨n, rfl⟩ : ∃ m, n = m + 1 := ⟨n - 1, by simp [print] at hn; omega⟩
    simp [print, value, atom, word?, words, Text.after?]
  | bool b =>
    intro depth n rest hn hrest
    obtain ⟨n, rfl⟩ : ∃ m, n = m + 1 := ⟨n - 1, by cases b <;> simp [print] at hn <;> omega⟩
    cases b <;> simp [print, value, atom, word?, words, Text.after?]
  | int i => exact int_reads i
  | text s => exact text_reads s
  | list hexact hreads => exact list_reads hexact hreads
  | object names hexact hreads => exact object_reads names hexact hreads

/-- A written document is read as the value that was written. -/
theorem read_pretty {v : Json} (h : Exact v) : read (pretty v) = .ok v := by
  have hopens := print_opens 0 h
  have hvalue := exact_reads h 0 (2 * (print 0 v).length + 2) [] (by omega) ends_nil
  have hskip := skip_space_opens hopens []
  rw [List.append_nil] at hvalue hskip
  have hdocument : document (print 0 v) = .ok v := by
    obtain ⟨c, front, hfront, -, -, hmark⟩ := hopens
    rw [document]
    · rw [hskip, hvalue]
      rfl
    · intro tail htail
      rw [hfront] at htail
      exact hmark (List.cons.inj htail).1
  rw [read, pretty, String.toList_ofList, hdocument]
  rfl

theorem unify_newlines_plain {s : List Char} (h : '\r' ∉ s) : Text.unifyNewlines s = s := by
  induction s with
  | nil => rfl
  | cons c s ih =>
    simp only [List.mem_cons, not_or] at h
    rw [Text.unifyNewlines, ih h.2]
    · rintro rest rfl
      exact absurd rfl h.1
    · rintro rfl
      exact absurd rfl h.1

theorem hex_control_no_return : ∀ code < 0x20, '\r' ∉ Text.hexDigits 4 code := by
  decide +kernel

theorem print_char_no_return (c : Char) : '\r' ∉ printChar c := by
  rw [printChar.eq_def]
  split
  · decide
  · decide
  · decide
  · decide
  · decide
  · decide
  · decide
  · next _ _ _ _ _ hreturn _ =>
    by_cases hc : c.toNat < 0x20
    · rw [if_pos hc]
      simp [hex_control_no_return c.toNat hc]
    · rw [if_neg hc]
      simpa using Ne.symm hreturn

theorem print_text_no_return (s : String) : '\r' ∉ printText s := by
  have hchars : ∀ c ∈ s.toList, '\r' ∉ printChar c := fun c _ => print_char_no_return c
  simpa [printText] using hchars

theorem new_line_no_return (depth : Nat) : '\r' ∉ newLine depth := by
  simp [newLine]

theorem int_no_return (n : Int) : '\r' ∉ (toString n).toList := by
  intro hmem
  rcases int_char hmem with hsign | hdigit
  · cases hsign
  · cases hdigit

theorem items_no_return {depth : Nat} {items : List Json}
    (h : ∀ item ∈ items, '\r' ∉ print depth item) : '\r' ∉ printItems depth items := by
  induction items with
  | nil => simp [printItems]
  | cons item items ih =>
    have hmore := ih fun other ho => h other (by simp [ho])
    simp [printItems, new_line_no_return, h item (by simp), hmore]

theorem fields_no_return {depth : Nat} {fields : List (String × Json)}
    (h : ∀ field ∈ fields, '\r' ∉ printField depth field) : '\r' ∉ printFields depth fields := by
  induction fields with
  | nil => simp [printFields]
  | cons field fields ih =>
    have hmore := ih fun other ho => h other (by simp [ho])
    simp [printFields, new_line_no_return, h field (by simp), hmore]

theorem print_no_return (depth : Nat) {v : Json} (h : Exact v) : '\r' ∉ print depth v := by
  induction h generalizing depth with
  | null => simp [print]
  | bool b => cases b <;> simp [print]
  | int n => exact int_no_return n
  | text s => exact print_text_no_return s
  | @list items _ ih =>
    cases items with
    | nil => simp [print]
    | cons item items =>
      have hitems := items_no_return fun other ho =>
        ih other (List.mem_cons_of_mem item ho) (depth + 1)
      simp [print, new_line_no_return, ih item (by simp) (depth + 1), hitems]
  | @object fields _ _ ih =>
    have hfield : ∀ field ∈ fields, '\r' ∉ printField (depth + 1) field := by
      rintro ⟨name, v⟩ hfield
      simp [printField, print_text_no_return, ih (name, v) hfield (depth + 1)]
    cases fields with
    | nil => simp [print]
    | cons field fields =>
      have hfields := fields_no_return fun other ho => hfield other (List.mem_cons_of_mem field ho)
      simp [print, new_line_no_return, hfield field (by simp), hfields]

theorem unify_pretty {v : Json} (h : Exact v) :
    String.ofList (Text.unifyNewlines (pretty v).toList) = pretty v := by
  rw [pretty, String.toList_ofList, unify_newlines_plain (print_no_return 0 h)]

end FileSearch.Json
