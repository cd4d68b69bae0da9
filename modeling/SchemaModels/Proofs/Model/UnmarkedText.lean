import SchemaModels.ColumnType.MemberType
import SchemaModels.Proofs.ColumnType.TypeParts
import SchemaModels.Proofs.Model.DefinitionParts
import SchemaModels.Proofs.Naming.DerivedNames
import SchemaModels.Proofs.Schema.DefaultParts
import SchemaModels.Proofs.Schema.Texts

/-!
# Unmarked code

What the generator writes for names, types, defaults and indexes of a database has no mark of the
token if the texts of the database have none: names are styled and inflected, types and defaults
are cut and escaped, and none of that makes a mark.
-/

namespace SchemaModels

open Naming Text

/-! ## Names -/

/-- Styles and inflection put no mark into a name. -/
theorem nameStable_isUnmarked : NameStable isUnmarked where
  toCaseStable := caseStable_isUnmarked
  underscore := rfl
  hyphen := rfl
  pairs := by
    have hpairs : ∀ pair ∈ irregularPairs, Unmarked pair.1 ∧ Unmarked pair.2 := by decide +kernel
    exact hpairs
  singularRules := by
    have hrules : ∀ rule ∈ singularEndings ++ uncountableEndings, Unmarked rule.replacement := by
      decide +kernel
    exact hrules
  pluralRules := by
    have hrules : ∀ rule ∈ pluralEndings ++ uncountableEndings, Unmarked rule.replacement := by
      decide +kernel
    exact hrules

theorem Settings.unmarked_propertyName (s : Settings) {name : String} (h : Unmarked name) :
    Unmarked (s.propertyName name) :=
  nameStable_isUnmarked.restyle s.propertyStyle h

theorem Naming.unmarked_propertyKey {name : String} (h : Unmarked name) :
    Unmarked (propertyKey name) := by
  unfold propertyKey
  split
  · exact h
  · exact ((Unmarked.fixed rfl).append h).append (.fixed rfl)

theorem Context.unmarked_indent (ctx : Context) (depth : Nat) : Unmarked (ctx.indent depth) := by
  refine unmarked_ofList.mpr fun c hc => ?_
  rw [(List.mem_replicate.mp hc).2]
  unfold Settings.indent Indent.new
  dsimp only
  split <;> rfl

theorem unmarked_truth (b : Bool) : Unmarked (if b then "true" else "false") := by
  cases b <;> exact .fixed rfl

/-! ## Types -/

theorem isPrefix_of_lengthAt? {cs found : List Char} (h : lengthAt? cs = some found) :
    found <+: cs := by
  unfold lengthAt? at h
  split at h
  · next rest =>
    split at h
    · next d ds tail hdigits hrest =>
      cases h
      refine ⟨tail, ?_⟩
      rw [← List.takeWhile_append_dropWhile (p := isDecimalDigit) (l := rest), hdigits, hrest]
      simp
    · cases h
  · cases h

theorem isPrefix_of_precisionAt? {cs found : List Char} (h : precisionAt? cs = some found) :
    found <+: cs := by
  unfold precisionAt? at h
  split at h
  · next first =>
    split at h
    · next p ps second hfirst hsecond =>
      split at h
      · next s ss tail hdigits hrest =>
        cases h
        refine ⟨tail, ?_⟩
        rw [← List.takeWhile_append_dropWhile (p := isDecimalDigit) (l := first), hfirst, hsecond,
          ← List.takeWhile_append_dropWhile (p := isDecimalDigit) (l := second), hdigits, hrest]
        simp
      · cases h
    · cases h
  · cases h

/-- What is found at the front of some end of the characters is a part of them. -/
theorem firstFound_subset {find : List Char → Option (List Char)}
    (hfind : ∀ {cs found}, find cs = some found → found <+: cs) :
    ∀ (cs : List Char), firstFound find cs ⊆ cs := by
  intro cs
  induction cs with
  | nil => exact List.nil_subset _
  | cons c cs ih =>
    rw [firstFound]
    split
    · next found h => exact (hfind h).subset
    · exact List.Subset.trans ih (List.subset_cons_self c cs)

theorem unmarked_lengthIn {t : String} (h : Unmarked t) : Unmarked (lengthIn t) :=
  unmarked_ofList.mpr (Only.of_subset h (firstFound_subset isPrefix_of_lengthAt? t.toList))

theorem unmarked_precisionIn {t : String} (h : Unmarked t) : Unmarked (precisionIn t) :=
  unmarked_ofList.mpr (Only.of_subset h (firstFound_subset isPrefix_of_precisionAt? t.toList))

/-- The texts in the type of a column are unmarked. -/
structure ColumnType.IsUnmarked (t : ColumnType) : Prop where
  sqlType : Unmarked t.sqlType
  elementType : ∀ e, t.elementType = some e → Unmarked e
  labels : ∀ l ∈ t.labels, Unmarked l

namespace ColumnType

variable {t : ColumnType}

theorem IsUnmarked.lowered (h : t.IsUnmarked) : Unmarked t.lowered :=
  h.sqlType.lowercase

theorem IsUnmarked.shape (h : t.IsUnmarked) : Unmarked t.shape := by
  unfold ColumnType.shape
  split
  · next e he => exact ((Unmarked.fixed rfl).append (h.elementType e he)).append (.fixed rfl)
  · exact unmarked_empty

theorem enumList?_subset {sqlType : String} {inner : List Char}
    (h : enumList? sqlType = some inner) : inner ⊆ sqlType.toList := by
  unfold enumList? at h
  dsimp only at h
  split at h
  · split at h
    · next c rest hreverse =>
      cases h
      intro d hd
      have hmem : d ∈ (sqlType.toList.drop 5).reverse := by
        rw [hreverse]
        exact List.mem_cons_of_mem _ (List.mem_reverse.mp hd)
      exact List.mem_of_mem_drop (List.mem_reverse.mp hmem)
    · cases h
  · cases h

theorem IsUnmarked.enumLiterals (h : t.IsUnmarked) : ∀ l ∈ t.enumLiterals, Unmarked l := by
  unfold ColumnType.enumLiterals
  split
  · split
    · next inner hinner =>
      have hinner : Unmarked (String.ofList inner) :=
        unmarked_ofList.mpr (Only.of_subset h.sqlType (enumList?_subset hinner))
      exact fun _ hpiece => hinner.of_subset (subset_of_mem_splitOn hpiece)
    · exact List.forall_mem_nil _
  · intro l hl
    obtain ⟨label, hlabel, rfl⟩ := List.mem_map.mp hl
    exact ((Unmarked.fixed rfl).append ((h.labels label hlabel).backslashBefore '"')).append
      (.fixed rfl)

/-- What a scalar type may hold is cut out of the type of the column. -/
theorem IsSize.unmarked (h : t.IsUnmarked) {s : String} (hs : t.IsSize s) : Unmarked s := by
  cases hs with
  | none | money | smallMoney => exact .fixed rfl
  | length => exact unmarked_lengthIn h.lowered
  | precision => exact unmarked_precisionIn h.lowered
  | shape => exact h.shape

theorem IsUnmarked.ofElement (h : t.IsUnmarked) {e : String} (he : t.elementType = some e) :
    IsUnmarked { sqlType := e, labels := t.labels } where
  sqlType := h.elementType e he
  elementType := by simp
  labels := h.labels

end ColumnType

theorem DataType.unmarked_render_of_sizes {d : DataType} (hd : d.isScalar = true)
    (h : ∀ s ∈ d.sizes, Unmarked s) : Unmarked d.render := by
  cases d with
  | array e => cases hd
  | enum ls => cases hd
  | text n | string n | char n | date n | float n | decimal n | double n | geometry n
  | geography n =>
    exact (Unmarked.fixed rfl).append (h n (List.mem_singleton.mpr rfl))
  | range b =>
    have hname : Unmarked b.name := by cases b <;> exact .fixed rfl
    exact ((Unmarked.fixed rfl).append hname).append (.fixed rfl)
  | integer w unsigned zerofill =>
    have hname : Unmarked w.name := by cases w <;> exact .fixed rfl
    have hunsigned : Unmarked (if unsigned then ".UNSIGNED" else "") := by
      cases unsigned <;> exact .fixed rfl
    have hzerofill : Unmarked (if zerofill then ".ZEROFILL" else "") := by
      cases zerofill <;> exact .fixed rfl
    exact (((Unmarked.fixed rfl).append hname).append hunsigned).append hzerofill
  | _ => exact .fixed rfl

theorem ColumnType.IsUnmarked.dataType {t : ColumnType} (h : t.IsUnmarked) {d : DataType}
    (hd : t.dataType? = some d) : Unmarked d.render := by
  refine dataType_induction (K := IsUnmarked) (P := fun d => Unmarked d.render)
    (fun ht hd hsizes => DataType.unmarked_render_of_sizes hd fun s hs => (hsizes s hs).unmarked ht)
    (fun he => ?_) (fun ht _ => ?_) h (fun _ => h.ofElement) hd
  · exact ((Unmarked.fixed rfl).append he).append (.fixed rfl)
  · exact ((Unmarked.fixed rfl).append (unmarked_intercalate (.fixed rfl) ht.enumLiterals)).append
      (.fixed rfl)

theorem ColumnType.IsUnmarked.elementOrEmpty {t : ColumnType} (h : t.IsUnmarked) :
    t.elementOrEmpty.IsUnmarked where
  sqlType := by
    show Unmarked (t.elementType.getD "")
    cases he : t.elementType with
    | none => exact unmarked_empty
    | some e => exact h.elementType e he
  elementType := by simp [ColumnType.elementOrEmpty]
  labels := h.labels

theorem ColumnType.IsUnmarked.plainMemberType {t : ColumnType} (h : t.IsUnmarked) :
    Unmarked t.plainMemberType.render := by
  unfold ColumnType.plainMemberType
  dsimp only
  split
  · exact .fixed rfl
  split
  · exact .fixed rfl
  split
  · exact .fixed rfl
  split
  · exact .fixed rfl
  split
  · split
    · exact .fixed rfl
    · exact unmarked_intercalate (.fixed rfl) h.enumLiterals
  · split <;> exact .fixed rfl

theorem ColumnType.IsUnmarked.memberTypeWith {t : ColumnType} (h : t.IsUnmarked)
    {element : MemberType} (helement : Unmarked element.render) :
    Unmarked (t.memberTypeWith element).render := by
  unfold ColumnType.memberTypeWith
  split
  · exact helement.append (.fixed rfl)
  · exact h.plainMemberType

theorem ColumnType.IsUnmarked.memberType {t : ColumnType} (h : t.IsUnmarked) :
    Unmarked t.memberType.render :=
  h.memberTypeWith (h.elementOrEmpty.memberTypeWith h.elementOrEmpty.elementOrEmpty.plainMemberType)

/-! ## Defaults -/

namespace DefaultValue

theorem unmarked_render_ofText (type : String) (elementType : Option String) {s : String}
    (h : Unmarked s) : Unmarked (ofText type elementType s).render :=
  (reading_ofText type elementType s).only_render (List.all_eq_true.mp (by decide)) h

theorem unmarked_render_ofReported {reported : Option Value}
    (h : ∀ v, reported = some v → AllUnmarked v.texts) {sqlType : String}
    {elementType : Option String} {d : Dialect} {isSerial : Bool} {x : DefaultValue}
    (hx : ofReported reported sqlType elementType d isSerial = some x) : Unmarked x.render := by
  unfold ofReported at hx
  split at hx
  · cases hx
  next v =>
  split at hx
  · cases hx
  split at hx
  · next s _ =>
    cases hx
    have hs : Unmarked s := h _ rfl s (List.mem_singleton.mpr rfl)
    exact unmarked_render_ofText _ _ (hs.scriptEscaped.of_subset (stripBrackets_subset _))
  · cases hx
    exact Value.unmarked_display (h v rfl)

end DefaultValue

/-! ## Attributes -/

namespace Column

variable {c : Column}

theorem isUnmarked_type (h : AllUnmarked c.texts) : c.type.IsUnmarked where
  sqlType := h c.sqlType (by simp [texts])
  elementType e he := h e (by simp [texts, show c.elementType = some e from he])
  labels l hl := h l (by simp [texts, show l ∈ c.labels from hl])

theorem unmarked_declaredType (h : AllUnmarked c.texts) : Unmarked c.declaredType.render := by
  unfold declaredType
  split
  · next d hd => exact (isUnmarked_type h).dataType hd
  · exact Unmarked.scriptQuoted (isUnmarked_type h).sqlType

end Column

namespace Attribute

/-- The texts that an attribute is written with are unmarked. -/
def HasUnmarkedParts : Attribute → Prop
  | type t => Unmarked t.render
  | defaultValue d => Unmarked d.render
  | references table column => Unmarked table ∧ Unmarked column
  | comment s => Unmarked s
  | extra k v => Unmarked k ∧ AllUnmarked v.texts
  | unique (some name) => Unmarked name
  | field column => Unmarked column
  | _ => True

theorem unmarked_key {a : Attribute} (h : a.HasUnmarkedParts) : Unmarked a.key := by
  cases a with
  | extra k v => exact h.1
  | _ => exact .fixed rfl

theorem unmarked_value (ctx : Context) {a : Attribute} (h : a.HasUnmarkedParts) :
    Unmarked (a.value ctx) := by
  cases a with
  | autoIncrement | autoIncrementIdentity | primaryKey => exact .fixed rfl
  | type t => exact h
  | allowNull b => exact unmarked_truth b
  | defaultValue d => exact h
  | references table column =>
    have hentry : ∀ {front key s stop}, Unmarked front → Unmarked key → Unmarked s →
        Unmarked stop → Unmarked (front ++ ctx.indent 4 ++ key ++ s ++ stop) :=
      fun hfront hkey hs hstop =>
        (((hfront.append (ctx.unmarked_indent 4)).append hkey).append hs).append hstop
    have htable : Unmarked ("\x7b\n" ++ ctx.indent 4 ++ "model: '" ++ table ++ "',\n") :=
      hentry (.fixed rfl) (.fixed rfl) h.1 (.fixed rfl)
    exact ((hentry htable (.fixed rfl) h.2 (.fixed rfl)).append (ctx.unmarked_indent 3)).append
      (.fixed rfl)
  | comment s => exact Unmarked.scriptQuoted h
  | extra k v =>
    show Unmarked (extraValue v)
    unfold extraValue
    split
    · next s => exact Unmarked.scriptQuoted (h.2 s (List.mem_singleton.mpr rfl))
    · exact Value.unmarked_display h.2
  | unique constraint =>
    cases constraint with
    | none => exact .fixed rfl
    | some name =>
      exact ((Unmarked.fixed rfl).append (Unmarked.backslashBefore h '"')).append (.fixed rfl)
  | field column => exact ((Unmarked.fixed rfl).append h).append (.fixed rfl)

theorem unmarked_render (ctx : Context) {a : Attribute} (h : a.HasUnmarkedParts) :
    Unmarked (a.render ctx) :=
  (((ctx.unmarked_indent 3).append (unmarked_key h)).append (.fixed rfl)).append
    (unmarked_value ctx h)

/-- **Whatever a model declares about a column is unmarked.** -/
theorem hasUnmarkedParts_ofColumn (ctx : Context) {t : Table} (ht : AllUnmarked t.texts)
    {c : Column} (hc : AllUnmarked c.texts) : ∀ a ∈ ofColumn ctx t c, a.HasUnmarkedParts := by
  intro a ha
  cases arises_of_mem_ofColumn a ha with
  | autoIncrement | autoIncrementIdentity | allowNull | primaryKey | flag => trivial
  | type => exact Column.unmarked_declaredType hc
  | defaultValue hd =>
    refine DefaultValue.unmarked_render_ofReported (fun v hv => hc.of_subset fun s hs => ?_) hd
    simp [Column.texts, hv, hs]
  | references hk htable hcolumn =>
    have hk := Table.allUnmarked_keyRole ht hk
    exact ⟨hk _ (by simp [KeyRole.texts, htable]), hk _ (by simp [KeyRole.texts, hcolumn])⟩
  | comment hs => exact hc _ (by simp [Column.texts, hs])
  | extra he =>
    have hextras : AllUnmarked (c.extras.entries.flatMap fun e => e.1 :: e.2.texts) :=
      hc.of_subset fun s hs => by simp only [Column.texts, List.mem_append, hs, or_true]
    exact List.forall_mem_cons.mp (hextras.of_flatMap he)
  | unique hname => exact hc _ (by simp [Column.texts, hname, Uniqueness.texts])
  | field => exact hc _ (by simp [Column.texts])

end Attribute

theorem AttributeBlock.unmarked_render {ctx : Context} {t : Table} (ht : AllUnmarked t.texts)
    {b : AttributeBlock} (hb : b ∈ t.attributeBlocks ctx) : Unmarked (b.render ctx) := by
  obtain ⟨c, hc, hcb⟩ := List.mem_filterMap.mp hb
  have hc := Table.allUnmarked_of_mem_columns ht hc
  have hname : Unmarked c.name := hc _ (by simp [Column.texts])
  obtain ⟨-, rfl⟩ := ofColumn?_eq_some_iff.mp hcb
  have hattributes : Unmarked
      (String.intercalate ",\n" ((Attribute.ofColumn ctx t c).map (·.render ctx))) := by
    refine unmarked_intercalate (.fixed rfl) fun s hs => ?_
    obtain ⟨a, ha, rfl⟩ := List.mem_map.mp hs
    exact Attribute.unmarked_render ctx (Attribute.hasUnmarkedParts_ofColumn ctx ht hc a ha)
  have hkey := unmarked_propertyKey (ctx.settings.unmarked_propertyName hname)
  exact ((((((ctx.unmarked_indent 2).append hkey).append (.fixed rfl)).append hattributes).append
    (.fixed rfl)).append (ctx.unmarked_indent 2)).append (.fixed rfl)

/-! ## Indexes -/

theorem IndexPart.unmarked_render (ctx : Context) {p : IndexPart} (h : AllUnmarked p.texts) :
    Unmarked (p.render ctx) := by
  have hquoted : ∀ {key s}, Unmarked key → Unmarked s → Unmarked (key ++ s ++ "\"") :=
    fun hkey hs => (hkey.append hs).append (.fixed rfl)
  have hentries : ∀ s ∈ p.entries, Unmarked s := by
    unfold entries
    simp only [List.forall_mem_append, List.forall_mem_singleton]
    refine ⟨⟨⟨?_, ?_⟩, ?_⟩, ?_⟩
    · exact hquoted (.fixed rfl) (h _ (by simp [texts]))
    · exact forall_mem_toList_map fun c hc => hquoted (.fixed rfl) (h c (by simp [texts, hc]))
    · exact forall_mem_toList_map fun n _ => (Unmarked.fixed rfl).append (unmarked_natText n)
    · refine forall_mem_toList_map fun o ho => hquoted (.fixed rfl) (h o ?_)
      simp [texts, (Option.filter_eq_some_iff.mp ho).1]
  have hcomma : Unmarked ", " := .fixed rfl
  exact (((ctx.unmarked_indent 5).append (.fixed rfl)).append
    (unmarked_intercalate hcomma hentries)).append (.fixed rfl)

theorem Index.unmarked_of_mem_lines (ctx : Context) {i : Index} (h : AllUnmarked i.texts) :
    ∀ s ∈ i.lines ctx, Unmarked s := by
  have hblanks : ∀ n {s}, Unmarked s → Unmarked (ctx.indent n ++ s) :=
    fun n _ hs => (ctx.unmarked_indent n).append hs
  have hquoted : ∀ {front s}, Unmarked front → Unmarked s → Unmarked (front ++ s ++ "\",") :=
    fun hfront hs => (hfront.append hs).append (.fixed rfl)
  unfold lines
  simp only [List.forall_mem_append, List.forall_mem_singleton]
  refine ⟨⟨⟨⟨⟨⟨hblanks 3 (.fixed rfl), ?_⟩, ?_⟩, ?_⟩, hblanks 4 (.fixed rfl)⟩, ?_⟩, ?_⟩
  · exact forall_mem_toList_map fun n hn =>
      hquoted (hblanks 4 (.fixed rfl)) (h n (by simp [texts, hn]))
  · exact forall_mem_ite_nil (List.forall_mem_singleton.mpr (hblanks 4 (.fixed rfl)))
  · refine forall_mem_toList_map fun k hk => ?_
    have hkey : Unmarked (kindKey k) := by
      unfold kindKey
      split <;> exact .fixed rfl
    exact hquoted ((hblanks 4 hkey).append (.fixed rfl)) (h k (by simp [texts, hk]))
  · intro s hs
    obtain ⟨p, hp, rfl⟩ := List.mem_map.mp hs
    have hparts : AllUnmarked (i.parts.flatMap IndexPart.texts) :=
      h.of_subset fun s hs => by simp only [texts, List.mem_append, hs, or_true]
    exact p.unmarked_render ctx (hparts.of_flatMap hp)
  · exact List.forall_mem_cons.mpr
      ⟨hblanks 4 (.fixed rfl), List.forall_mem_singleton.mpr (hblanks 3 (.fixed rfl))⟩

theorem Index.unmarked_renderList (ctx : Context) {indexes : List Index}
    (h : ∀ i ∈ indexes, AllUnmarked i.texts) : Unmarked ((renderList? ctx indexes).getD "") := by
  unfold renderList?
  split
  · exact unmarked_empty
  · rw [Option.getD_some]
    refine unmarked_intercalate (.fixed rfl) ?_
    simp only [List.forall_mem_append, List.forall_mem_singleton]
    refine ⟨⟨(ctx.unmarked_indent 2).append (.fixed rfl), fun s hs => ?_⟩,
      (ctx.unmarked_indent 2).append (.fixed rfl)⟩
    obtain ⟨i, hi, hs⟩ := List.mem_flatMap.mp hs
    exact Index.unmarked_of_mem_lines ctx (h i hi) s hs

end SchemaModels
