import SchemaModels.Proofs.Model.Layout
import SchemaModels.Proofs.Schema.Texts
import SchemaModels.Proofs.Text.ReadsOff

/-!
# Reading indexes off their text

The option that lists the indexes of a model says everything about them, except that an ascending
order is not mentioned: where no text has a double quote, two lists are written the same just if
they agree (`Index.renderList?_eq_iff`).

An index is written as entries, each a key with a value, and as a list of its parts, each of which
is entries again. A key ends at its colon, a text at its second quote and a number where no digit
follows, so an entry can be read off (`ListedEntry.readsOff`). Lists of entries, of parts and of
indexes are each closed by a line that none of their items begins with, so they can be read off,
too.
-/

namespace SchemaModels

open Text

/-! ## What indexes are to agree on -/

/-- The parts are the same, where an ascending order is the same as none. -/
structure IndexPart.Agrees (p q : IndexPart) : Prop where
  column : p.column = q.column
  collate : p.collate = q.collate
  length : p.length = q.length
  order : p.order.filter (· ≠ "ASC") = q.order.filter (· ≠ "ASC")

/-- The indexes are the same, where an ascending order is the same as none. -/
structure Index.Agrees (i j : Index) : Prop where
  name : i.name = j.name
  unique : i.unique = j.unique
  kind : i.kind = j.kind
  parts : List.Forall₂ IndexPart.Agrees i.parts j.parts

/-! ## Entries -/

/-- The value of an entry of an index or of a part. -/
inductive ListedValue where
  | text (s : String)
  | number (n : Nat)
  | yes

/-- The value as it is written. -/
def ListedValue.render : ListedValue → String
  | text s => "\"" ++ s ++ "\""
  | number n => toString n
  | yes => "true"

/-- An entry of an index or of a part. -/
structure ListedEntry where
  key : String
  value : ListedValue

namespace ListedEntry

/-- The entry as it is written. -/
def render (e : ListedEntry) : String := e.key ++ ": " ++ e.value.render

/-- The value that is listed first under one of the keys. -/
def valueUnder (keys : List String) (es : List ListedEntry) : Option ListedValue :=
  (es.find? fun e => keys.contains e.key).map (·.value)

end ListedEntry

/-- The entries of a part. -/
def IndexPart.listed (p : IndexPart) : List ListedEntry :=
  [⟨"name", .text p.column⟩]
  ++ (p.collate.map fun c => ⟨"collate", .text c⟩).toList
  ++ (p.length.map fun n => ⟨"length", .number n⟩).toList
  ++ ((p.order.filter (· ≠ "ASC")).map fun o => ⟨"order", .text o⟩).toList

/-- The entries of an index before its parts. -/
def Index.listed (i : Index) : List ListedEntry :=
  (i.name.map fun n => ⟨"name", .text n⟩).toList
  ++ (if i.unique then [⟨"unique", .yes⟩] else [])
  ++ (i.kind.map fun k => ⟨kindKey k, .text k⟩).toList

theorem IndexPart.entries_eq (p : IndexPart) : p.entries = p.listed.map (·.render) := by
  unfold entries listed
  simp only [List.map_append, List.map_singleton]
  cases p.collate <;> cases p.length <;> cases p.order.filter (· ≠ "ASC") <;>
    simp [ListedEntry.render, ListedValue.render, ← String.toList_inj]

theorem Index.lines_eq (ctx : Context) (i : Index) : i.lines ctx =
    [ctx.indent 3 ++ "\x7b"] ++ (i.listed.map fun e => ctx.indent 4 ++ e.render ++ ",")
    ++ [ctx.indent 4 ++ "fields: ["] ++ i.parts.map (·.render ctx)
    ++ [ctx.indent 4 ++ "]", ctx.indent 3 ++ "\x7d,"] := by
  unfold lines listed
  simp only [List.map_append]
  cases i.name <;> cases i.unique <;> cases i.kind <;>
    simp [ListedEntry.render, ListedValue.render, ← String.toList_inj]

/-! ## What the entries say -/

section

open ListedEntry

theorem ListedValue.text_injective : Function.Injective ListedValue.text :=
  fun _ _ h => ListedValue.text.inj h

theorem ListedValue.number_injective : Function.Injective ListedValue.number :=
  fun _ _ h => ListedValue.number.inj h

namespace IndexPart

variable {p q : IndexPart}

theorem valueUnder_column (p : IndexPart) :
    valueUnder ["name"] p.listed = some (.text p.column) := rfl

theorem valueUnder_collate (p : IndexPart) :
    valueUnder ["collate"] p.listed = p.collate.map .text := by
  unfold listed
  cases p.collate <;> cases p.length <;> cases p.order.filter (· ≠ "ASC") <;> rfl

theorem valueUnder_length (p : IndexPart) :
    valueUnder ["length"] p.listed = p.length.map .number := by
  unfold listed
  cases p.collate <;> cases p.length <;> cases p.order.filter (· ≠ "ASC") <;> rfl

theorem valueUnder_order (p : IndexPart) :
    valueUnder ["order"] p.listed = (p.order.filter (· ≠ "ASC")).map .text := by
  unfold listed
  cases p.collate <;> cases p.length <;> cases p.order.filter (· ≠ "ASC") <;> rfl

/-- Parts agree if they have the same entries. -/
theorem listed_eq_iff : p.listed = q.listed ↔ p.Agrees q := by
  constructor
  · intro h
    have hcolumn := congrArg (valueUnder ["name"]) h
    have hcollate := congrArg (valueUnder ["collate"]) h
    have hlength := congrArg (valueUnder ["length"]) h
    have horder := congrArg (valueUnder ["order"]) h
    rw [valueUnder_column, valueUnder_column] at hcolumn
    rw [valueUnder_collate, valueUnder_collate] at hcollate
    rw [valueUnder_length, valueUnder_length] at hlength
    rw [valueUnder_order, valueUnder_order] at horder
    exact ⟨ListedValue.text_injective (Option.some.inj hcolumn),
      Option.map_injective ListedValue.text_injective hcollate,
      Option.map_injective ListedValue.number_injective hlength,
      Option.map_injective ListedValue.text_injective horder⟩
  · rintro ⟨hcolumn, hcollate, hlength, horder⟩
    rw [listed, listed, hcolumn, hcollate, hlength, horder]

end IndexPart

namespace Index

variable {i j : Index}

theorem kindKey_cases (kind : String) : kindKey kind = "type" ∨ kindKey kind = "using" := by
  unfold kindKey
  split
  · exact .inl rfl
  · exact .inr rfl

theorem valueUnder_name (i : Index) : valueUnder ["name"] i.listed = i.name.map .text := by
  unfold listed
  cases i.kind with
  | none => cases i.name <;> cases i.unique <;> rfl
  | some k =>
    rcases kindKey_cases k with hk | hk <;> cases i.name <;> cases i.unique <;>
      simp [valueUnder, hk]

theorem valueUnder_unique (i : Index) :
    valueUnder ["unique"] i.listed = if i.unique then some .yes else none := by
  unfold listed
  cases i.kind with
  | none => cases i.name <;> cases i.unique <;> rfl
  | some k =>
    rcases kindKey_cases k with hk | hk <;> cases i.name <;> cases i.unique <;>
      simp [valueUnder, hk]

theorem valueUnder_kind (i : Index) :
    valueUnder ["type", "using"] i.listed = i.kind.map .text := by
  unfold listed
  cases i.kind with
  | none => cases i.name <;> cases i.unique <;> rfl
  | some k =>
    rcases kindKey_cases k with hk | hk <;> cases i.name <;> cases i.unique <;>
      simp [valueUnder, hk]

/-- Indexes with the same entries have the same name, uniqueness and kind. -/
theorem listed_eq_iff :
    i.listed = j.listed ↔ i.name = j.name ∧ i.unique = j.unique ∧ i.kind = j.kind := by
  constructor
  · intro h
    have hname := congrArg (valueUnder ["name"]) h
    have hunique := congrArg (valueUnder ["unique"]) h
    have hkind := congrArg (valueUnder ["type", "using"]) h
    rw [valueUnder_name, valueUnder_name] at hname
    rw [valueUnder_unique, valueUnder_unique] at hunique
    rw [valueUnder_kind, valueUnder_kind] at hkind
    refine ⟨Option.map_injective ListedValue.text_injective hname, ?_,
      Option.map_injective ListedValue.text_injective hkind⟩
    revert hunique
    cases i.unique <;> cases j.unique <;> simp
  · rintro ⟨hname, hunique, hkind⟩
    rw [listed, listed, hname, hunique, hkind]

end Index
end

/-! ## Reading entries off -/

/-- A text has no double quote. -/
def Unquoted (s : String) : Prop := '"' ∉ s.toList

/-- If the value is a text, it has no double quote. -/
def ListedValue.Unquoted : ListedValue → Prop
  | text s => SchemaModels.Unquoted s
  | _ => True

/-- The key of the entry has no colon, and its value has no double quote. -/
structure ListedEntry.IsPlain (e : ListedEntry) : Prop where
  key : ':' ∉ e.key.toList
  value : e.value.Unquoted

namespace ListedValue

/-- The characters that a value can begin with. -/
def isFront : ListedValue → Char → Bool
  | text _, c => c == '"'
  | number _, c => c.isDigit
  | yes, c => c == 't'

theorem only_isDigit_toString (n : Nat) : Only Char.isDigit (toString n).toList := by
  rw [Nat.toString_eq_repr, Nat.toList_repr]
  exact fun c hc => Nat.isDigit_of_mem_toDigits (by decide) (by decide) hc

/-- A value begins as one of its kind. -/
theorem exists_front (v : ListedValue) :
    ∃ c cs, v.render.toList = c :: cs ∧ v.isFront c = true := by
  cases v with
  | text s => exact ⟨'"', s.toList ++ ['"'], by simp [render], rfl⟩
  | number n =>
    have hne : (toString n).toList ≠ [] := by
      rw [Nat.toString_eq_repr, Nat.toList_repr]
      exact Nat.toDigits_ne_nil
    obtain ⟨d, ds, hds⟩ := List.exists_cons_of_ne_nil hne
    exact ⟨d, ds, hds, only_isDigit_toString n d (by rw [hds]; exact List.mem_cons_self)⟩
  | yes => exact ⟨'t', ['r', 'u', 'e'], rfl, rfl⟩

/-- A value can be read off where no digit follows. -/
theorem readsOff : ReadsOff (Stops Char.isDigit) Unquoted (fun v => v.render.toList) Eq := by
  intro v w s t hv hw hs ht h
  have hquote : "\"".toList = ['"'] := rfl
  obtain ⟨c, cs, hc, hfront⟩ := v.exists_front
  obtain ⟨d, ds, hd, hfront'⟩ := w.exists_front
  have hsame : c = d := by
    simp only [hc, hd, List.cons_append, List.cons.injEq] at h
    exact h.1
  subst hsame
  cases v with
  | text a =>
    obtain rfl : c = '"' := beq_iff_eq.mp hfront
    cases w with
    | text b =>
      simp only [render, String.toList_append, List.append_assoc, hquote, List.singleton_append]
        at h
      obtain ⟨hab, hrest⟩ := append_inj_of_mark hv hw (List.cons.inj h).2
      exact ⟨congrArg text (String.toList_inj.mp hab), hrest⟩
    | number m => cases hfront'
    | yes => cases hfront'
  | number n =>
    cases w with
    | number m =>
      obtain ⟨hnm, hrest⟩ := append_inj_of_stops (only_isDigit_toString n)
        (only_isDigit_toString m) hs ht h
      rw [Nat.toString_eq_repr, Nat.toString_eq_repr, Nat.toList_repr, Nat.toList_repr] at hnm
      have hvalues := congrArg (Nat.ofDigitChars 10 · 0) hnm
      simp only [Nat.ofDigitChars_ten_toDigits] at hvalues
      exact ⟨congrArg number hvalues, hrest⟩
    | text b =>
      obtain rfl : c = '"' := beq_iff_eq.mp hfront'
      cases hfront
    | yes =>
      obtain rfl : c = 't' := beq_iff_eq.mp hfront'
      cases hfront
  | yes =>
    obtain rfl : c = 't' := beq_iff_eq.mp hfront
    cases w with
    | yes => exact ⟨rfl, List.append_cancel_left h⟩
    | text b => cases hfront'
    | number m => cases hfront'

end ListedValue

/-- An entry can be read off where no digit follows. -/
theorem ListedEntry.readsOff :
    ReadsOff (Stops Char.isDigit) IsPlain (fun e => e.render.toList) Eq := by
  rintro ⟨key, v⟩ ⟨key', w⟩ s t ⟨hkey, hv⟩ ⟨hkey', hw⟩ hs ht h
  have hcolon : ": ".toList = [':', ' '] := rfl
  simp only [render, String.toList_append, List.append_assoc, hcolon, List.cons_append,
    List.nil_append] at h
  obtain ⟨hkeys, hrest⟩ := append_inj_of_mark hkey hkey' h
  obtain ⟨rfl, hst⟩ := ListedValue.readsOff hv hw hs ht (List.cons.inj hrest).2
  exact ⟨congrArg (ListedEntry.mk · v) (String.toList_inj.mp hkeys), hst⟩

/-! ## Reading parts off -/

/-- No text of the part has a double quote. -/
def IndexPart.IsUnquoted (p : IndexPart) : Prop := ∀ s ∈ p.texts, Unquoted s

/-- No text of the index has a double quote. -/
def Index.IsUnquoted (i : Index) : Prop := ∀ s ∈ i.texts, Unquoted s

namespace IndexPart

theorem isPlain_of_mem_listed {p : IndexPart} (h : p.IsUnquoted) : ∀ e ∈ p.listed, e.IsPlain := by
  intro e he
  simp only [listed, List.mem_append, List.mem_singleton, Option.mem_toList, Option.map_eq_some_iff]
    at he
  rcases he with ((rfl | ⟨c, hc, rfl⟩) | ⟨n, -, rfl⟩) | ⟨o, ho, rfl⟩
  · exact ⟨by simp, h _ List.mem_cons_self⟩
  · exact ⟨by simp, h c (by simp [texts, hc])⟩
  · exact ⟨by simp, trivial⟩
  · obtain ⟨horder, -⟩ := Option.filter_eq_some_iff.mp ho
    exact ⟨by simp, h o (by simp [texts, horder])⟩

/-- The line of a part with its end. -/
theorem toList_line (ctx : Context) (p : IndexPart) : (p.render ctx ++ "\n").toList =
    (ctx.indent 5).toList ++ "\x7b ".toList ++
      ((", ".toList).intercalate (p.listed.map (·.render.toList)) ++ " \x7d,\n".toList) := by
  have hclose : " \x7d,\n".toList = " \x7d,".toList ++ "\n".toList := rfl
  simp only [render, entries_eq, hclose, String.toList_append, String.toList_intercalate,
    List.map_map, List.append_assoc]
  rfl

theorem listed_ne_nil (p : IndexPart) : p.listed ≠ [] := by simp [listed]

/-- The line of a part can be read off. -/
theorem readsOff (ctx : Context) (Other : List Char → Prop) :
    ReadsOff Other IsUnquoted (fun p => (p.render ctx ++ "\n").toList) Agrees := by
  have hentries := ListedEntry.readsOff.separated ", ".toList " \x7d,\n".toList
    (fun s c hc => by cases hc; rfl) (fun s c hc => by cases hc; rfl)
    (fun s t h => by cases h) Other
  intro p q s t hp hq hs ht h
  simp only [toList_line, List.append_assoc] at h
  have hrest := List.append_cancel_left (List.append_cancel_left h)
  obtain ⟨hlisted, hst⟩ := hentries ⟨p.listed_ne_nil, isPlain_of_mem_listed hp⟩
    ⟨q.listed_ne_nil, isPlain_of_mem_listed hq⟩ hs ht
    (by simpa only [List.append_assoc] using hrest)
  exact ⟨listed_eq_iff.mp (List.forall₂_eq_eq_eq ▸ hlisted), hst⟩

/-- Parts that agree are written the same. -/
theorem Agrees.render_eq {p q : IndexPart} (h : p.Agrees q) (ctx : Context) :
    p.render ctx = q.render ctx := by
  rw [render, render, entries_eq, entries_eq, listed_eq_iff.mpr h]

end IndexPart

/-! ## Reading indexes off -/

namespace Index

theorem isPlain_of_mem_listed {i : Index} (h : i.IsUnquoted) :
    ∀ e ∈ i.listed, e.IsPlain ∧ e.key ≠ "fields" := by
  intro e he
  simp only [listed, List.mem_append, List.mem_ite_nil_right, List.mem_singleton,
    Option.mem_toList, Option.map_eq_some_iff] at he
  rcases he with (⟨n, hn, rfl⟩ | ⟨-, rfl⟩) | ⟨k, hk, rfl⟩
  · exact ⟨⟨by simp, h n (by simp [texts, hn])⟩, by simp⟩
  · exact ⟨⟨by simp, trivial⟩, by simp⟩
  · have hvalue : Unquoted k := h k (by simp [texts, hk])
    rcases kindKey_cases k with hkey | hkey
    · exact ⟨⟨by simp [hkey], hvalue⟩, by simp [hkey]⟩
    · exact ⟨⟨by simp [hkey], hvalue⟩, by simp [hkey]⟩

theorem IsUnquoted.parts {i : Index} (h : i.IsUnquoted) : ∀ p ∈ i.parts, p.IsUnquoted :=
  fun p hp s hs => h s (List.mem_append_right _ (List.mem_flatMap.mpr ⟨p, hp, hs⟩))

/-- The lines of an index with their ends. -/
theorem toList_lines (ctx : Context) (i : Index) : (unlines (i.lines ctx)).toList =
    (ctx.indent 3).toList ++ "\x7b\n".toList ++
      (i.listed.flatMap (fun e => (ctx.indent 4).toList ++ (e.render.toList ++ ",\n".toList))
        ++ ((ctx.indent 4).toList ++ "fields: [\n".toList)) ++
      (i.parts.flatMap (fun p => (p.render ctx ++ "\n").toList)
        ++ ((ctx.indent 4).toList ++ "]\n".toList ++ (ctx.indent 3).toList
          ++ "\x7d,\n".toList)) := by
  have hunlines : ∀ l : List String,
      (unlines l).toList = l.flatMap fun s => (s ++ "\n").toList := by
    intro l
    induction l with
    | nil => rfl
    | cons s l ih => rw [unlines_cons, String.toList_append, ih, List.flatMap_cons]
  simp only [hunlines, lines_eq, List.flatMap_append, List.flatMap_map, List.flatMap_cons,
    List.flatMap_nil, String.toList_append, List.append_assoc, List.append_nil]
  rfl

/-- Lines at two depths that go on with different characters are not the same. -/
theorem indent_append_ne (ctx : Context) (m n : Nat) {c d : Char} (hc : isBlank c = false)
    (hd : isBlank d = false) (hne : c ≠ d) (s t : List Char) :
    (ctx.indent m).toList ++ c :: s ≠ (ctx.indent n).toList ++ d :: t := by
  intro h
  have hstops : ∀ {x : Char} (r : List Char), isBlank x = false → Stops isBlank (x :: r) := by
    rintro x r hx _ ⟨⟩
    exact hx
  obtain ⟨-, hrest⟩ := append_inj_of_stops (ctx.isBlank_indent m) (ctx.isBlank_indent n)
    (hstops s hc) (hstops t hd) h
  exact hne (List.cons.inj hrest).1

/-- The entries of an index can be read off up to the line that opens its parts. -/
theorem readsOff_listed (ctx : Context) (Other : List Char → Prop) :
    ReadsOff Other (fun l : List ListedEntry => ∀ e ∈ l, e.IsPlain ∧ e.key ≠ "fields")
      (fun l => l.flatMap (fun e => (ctx.indent 4).toList ++ (e.render.toList ++ ",\n".toList))
        ++ ((ctx.indent 4).toList ++ "fields: [\n".toList)) (List.Forall₂ Eq) := by
  have hentry : ReadsOff (fun _ => True) (fun e : ListedEntry => e.IsPlain ∧ e.key ≠ "fields")
      (fun e => (ctx.indent 4).toList ++ (e.render.toList ++ ",\n".toList)) Eq :=
    fun _ _ _ _ he he' hs ht h => ListedEntry.readsOff.between (ctx.indent 4).toList ",\n".toList
      (fun s c hc => by cases hc; rfl) (fun _ => True) he.1 he'.1 hs ht h
  refine hentry.flatMap _ (fun _ _ => trivial) (fun _ => trivial) ?_ Other
  -- the key of an entry would have to be the word that opens the parts
  rintro e ⟨hplain, hkey⟩ s t h
  have hcolon : ": ".toList = [':', ' '] := rfl
  have hopen : "fields: [\n".toList = "fields".toList ++ ':' :: " [\n".toList := rfl
  simp only [ListedEntry.render, hcolon, hopen, String.toList_append, List.append_assoc,
    List.append_cancel_left_eq, List.cons_append] at h
  obtain ⟨hsame, -⟩ := append_inj_of_mark hplain.key (by decide) h
  exact hkey (String.toList_inj.mp hsame)

/-- The parts of an index can be read off up to the line that closes them. -/
theorem readsOff_parts (ctx : Context) (Other : List Char → Prop) :
    ReadsOff Other (fun l => ∀ p ∈ l, p.IsUnquoted)
      (fun l => l.flatMap (fun p => (p.render ctx ++ "\n").toList)
        ++ ((ctx.indent 4).toList ++ "]\n".toList ++ (ctx.indent 3).toList ++ "\x7d,\n".toList))
      (List.Forall₂ IndexPart.Agrees) := by
  refine (IndexPart.readsOff ctx fun _ => True).flatMap _ (fun _ _ => trivial) (fun _ => trivial)
    ?_ Other
  intro p _ s t h
  simp only [IndexPart.toList_line, List.append_assoc] at h
  exact indent_append_ne ctx 5 4 rfl rfl (by decide) _ _ h

/-- The lines of an index can be read off. -/
theorem readsOff (ctx : Context) (Other : List Char → Prop) :
    ReadsOff Other IsUnquoted (fun i => (unlines (i.lines ctx)).toList) Agrees := by
  intro i j s t hi hj hs ht h
  simp only [toList_lines, List.append_assoc] at h
  have hhead := List.append_cancel_left (List.append_cancel_left h)
  obtain ⟨hlisted, hparts⟩ := readsOff_listed ctx (fun _ => True) (isPlain_of_mem_listed hi)
    (isPlain_of_mem_listed hj) trivial trivial (by simpa only [List.append_assoc] using hhead)
  obtain ⟨hagree, hst⟩ := readsOff_parts ctx Other hi.parts hj.parts hs ht
    (by simpa only [List.append_assoc] using hparts)
  obtain ⟨hname, hunique, hkind⟩ := listed_eq_iff.mp (List.forall₂_eq_eq_eq ▸ hlisted)
  exact ⟨⟨hname, hunique, hkind, hagree⟩, hst⟩

/-- A list of indexes can be read off up to the line that closes it. -/
theorem readsOff_list (ctx : Context) (Other : List Char → Prop) :
    ReadsOff Other (fun l => ∀ i ∈ l, i.IsUnquoted)
      (fun l => l.flatMap (fun i => (unlines (i.lines ctx)).toList)
        ++ ((ctx.indent 2).toList ++ "]".toList)) (List.Forall₂ Agrees) := by
  refine (readsOff ctx fun _ => True).flatMap _ (fun _ _ => trivial) (fun _ => trivial) ?_ Other
  intro i _ s t h
  simp only [toList_lines, List.append_assoc] at h
  exact indent_append_ne ctx 3 2 rfl rfl (by decide) _ _ h

/-! ## The option -/

/-- Indexes that agree are written the same. -/
theorem Agrees.lines_eq {i j : Index} (h : i.Agrees j) (ctx : Context) :
    i.lines ctx = j.lines ctx := by
  have hparts : ∀ {ps qs : List IndexPart}, List.Forall₂ IndexPart.Agrees ps qs →
      ps.map (·.render ctx) = qs.map (·.render ctx) := by
    intro ps qs hall
    induction hall with
    | nil => rfl
    | cons hpq _ ih => rw [List.map_cons, List.map_cons, hpq.render_eq, ih]
  rw [Index.lines_eq, Index.lines_eq, hparts h.parts,
    listed_eq_iff.mpr ⟨h.name, h.unique, h.kind⟩]

/-- Lists of indexes that agree are written the same. -/
theorem renderList?_eq_of_agrees (ctx : Context) {is js : List Index}
    (h : List.Forall₂ Agrees is js) : renderList? ctx is = renderList? ctx js := by
  have hlines : is.flatMap (·.lines ctx) = js.flatMap (·.lines ctx) := by
    induction h with
    | nil => rfl
    | cons hij _ ih => rw [List.flatMap_cons, List.flatMap_cons, hij.lines_eq, ih]
  have hempty : is.isEmpty = js.isEmpty := by cases h <;> rfl
  rw [renderList?, renderList?, hlines, hempty]

/-- The characters of the option, of which there are none for an empty list. -/
theorem renderList?_of_ne_nil (ctx : Context) {is : List Index} (h : is ≠ []) :
    ∃ text, renderList? ctx is = some text ∧
      text.toList = (ctx.indent 2 ++ "indexes: [" ++ "\n").toList ++
        (is.flatMap (fun i => (unlines (i.lines ctx)).toList)
          ++ ((ctx.indent 2).toList ++ "]".toList)) := by
  have hlines : ∀ is : List Index, (unlines (is.flatMap (·.lines ctx))).toList =
      is.flatMap fun i => (unlines (i.lines ctx)).toList := by
    intro is
    induction is with
    | nil => rfl
    | cons i is ih =>
      rw [List.flatMap_cons, unlines_append, String.toList_append, ih, List.flatMap_cons]
  refine ⟨_, by rw [renderList?, if_neg (by simpa using h)], ?_⟩
  rw [intercalate_concat, List.singleton_append, unlines_cons]
  simp only [String.toList_append, hlines, List.append_assoc]

/-- **Lists of indexes are written the same just if they agree**, where no text has a double
quote. -/
theorem renderList?_eq_iff (ctx : Context) {is js : List Index} (his : ∀ i ∈ is, i.IsUnquoted)
    (hjs : ∀ j ∈ js, j.IsUnquoted) :
    renderList? ctx is = renderList? ctx js ↔ List.Forall₂ Agrees is js := by
  refine ⟨fun h => ?_, renderList?_eq_of_agrees ctx⟩
  by_cases hi : is = []
  · by_cases hj : js = []
    · rw [hi, hj]
      exact .nil
    · obtain ⟨text, htext, -⟩ := renderList?_of_ne_nil ctx hj
      rw [hi, htext] at h
      cases h
  obtain ⟨text, htext, hchars⟩ := renderList?_of_ne_nil ctx hi
  by_cases hj : js = []
  · rw [hj, htext] at h
    cases h
  obtain ⟨text', htext', hchars'⟩ := renderList?_of_ne_nil ctx hj
  obtain rfl : text = text' := Option.some.inj (htext.symm.trans (h.trans htext'))
  have hsame := List.append_cancel_left (hchars.symm.trans hchars')
  have hlist := readsOff_list ctx (fun _ => True) his hjs (s := []) (t := []) trivial trivial
    (by rw [List.append_nil, List.append_nil]; exact hsame)
  exact hlist.1

/-- An index over the names and the birthdays of people. -/
def peopleIndex : Index := {
  name := some "by_name\n\x7d", unique := true, kind := some "BTREE"
  parts := [{ column := "name", length := some 20, order := some "ASC" },
    { column := "born", collate := some "", order := some "DESC" }] }

/-- The same index, with the ascending order left out. -/
def peopleIndexPlain : Index := {
  peopleIndex with
  parts := [{ column := "name", length := some 20 },
    { column := "born", collate := some "", order := some "DESC" }] }

/-- The index without a name is another one than that with an empty name. -/
theorem renderList?_eq_iff_people :
    (∀ i ∈ [peopleIndex], i.IsUnquoted) ∧ (∀ i ∈ [peopleIndexPlain], i.IsUnquoted) ∧
      renderList? default [peopleIndex] = renderList? default [peopleIndexPlain] ∧
      renderList? default [{}] ≠ renderList? default [{ name := some "" }] := by
  have hpeople : ∀ i ∈ [peopleIndex], i.IsUnquoted := by
    unfold IsUnquoted Unquoted
    decide
  have hplain : ∀ i ∈ [peopleIndexPlain], i.IsUnquoted := by
    unfold IsUnquoted Unquoted
    decide
  refine ⟨hpeople, hplain, (renderList?_eq_iff default hpeople hplain).mpr ?_, fun h => ?_⟩
  · exact .cons ⟨rfl, rfl, rfl, .cons ⟨rfl, rfl, rfl, rfl⟩ (.cons ⟨rfl, rfl, rfl, rfl⟩ .nil)⟩ .nil
  · have hagree := (renderList?_eq_iff default (by unfold IsUnquoted Unquoted; decide)
      (by unfold IsUnquoted Unquoted; decide)).mp h
    cases hagree with
    | cons hij _ => cases hij.name

end Index
end SchemaModels
