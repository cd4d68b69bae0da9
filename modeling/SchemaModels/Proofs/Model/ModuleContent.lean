import SchemaModels.Model.Generation
import SchemaModels.Proofs.Entries
import SchemaModels.Proofs.Traversal

/-!
# Where generated texts come from

A generated text is a draft in which the name of a model is put in (`Database.of_mem_generate`). The
draft has the definition of a table and, in a typed module, a typed section that is made from the
associations of the table (`ModuleContent.of_eq_ok`).
-/

namespace SchemaModels

/-- What the content of a module is made from. -/
theorem ModuleContent.of_eq_ok {ctx : Context} {relations : List Relation} {t : Table}
    {c : ModuleContent} (h : ModuleContent.of ctx relations t = .ok c) :
    c.table = t.name.qualified ∧ c.definition = t.definition ctx ∧
      if ctx.settings.language.isTyped then
        ∃ mixins s, Mixins.of relations (ctx.indent 1) t.name.qualified = .ok mixins ∧
          TypedSection.of ctx.settings t mixins = .ok s ∧ c.typed = some s
      else c.typed = none := by
  unfold ModuleContent.of at h
  dsimp only at h
  split at h
  · next htyped =>
    rw [if_pos htyped]
    obtain ⟨typed, hsection, hcontent⟩ := bind_eq_ok.mp h
    cases hcontent
    refine ⟨rfl, rfl, ?_⟩
    cases hs : t.typedSection ctx relations with
    | error e => rw [hs] at hsection; cases hsection
    | ok s =>
      rw [hs] at hsection
      cases hsection
      obtain ⟨mixins, hmixins, hof⟩ := bind_eq_ok.mp hs
      exact ⟨mixins, s, hmixins, hof, rfl⟩
  · next huntyped =>
    rw [if_neg huntyped]
    obtain ⟨typed, htyped, hcontent⟩ := bind_eq_ok.mp h
    cases htyped
    cases hcontent
    exact ⟨rfl, rfl, rfl⟩

/-- The content of a typed module has a typed section, made from the associations of the table. -/
theorem ModuleContent.exists_typed {ctx : Context} (hts : ctx.settings.language = .ts)
    {relations : List Relation} {t : Table} {c : ModuleContent}
    (h : ModuleContent.of ctx relations t = .ok c) : ∃ mixins s,
      Mixins.of relations (ctx.indent 1) t.name.qualified = .ok mixins ∧
      TypedSection.of ctx.settings t mixins = .ok s ∧ c.typed = some s := by
  have hisTyped : ctx.settings.language.isTyped = true := by rw [hts]; rfl
  have hsection := (of_eq_ok h).2.2
  rwa [if_pos hisTyped] at hsection

/-- A generated module is the content of the table, written under the name of its model. -/
theorem Table.of_generate_eq_ok {ctx : Context} {relations : List Relation} {t : Table}
    {m : ModelModule} (h : t.generate ctx relations = .ok m) : m.table = t.name.qualified ∧
      ∃ c model, ModuleContent.of ctx relations t = .ok c ∧ ctx.settings.modelName t = .ok model ∧
        m = c.write ctx model := by
  obtain ⟨c, hc, h⟩ := bind_eq_ok.mp h
  obtain ⟨model, hmodel, hwrite⟩ := bind_eq_ok.mp h
  cases hwrite
  exact ⟨(ModuleContent.of_eq_ok hc).1, c, model, hc, hmodel, rfl⟩

/-- A generated text is the module of a table. -/
theorem Database.of_mem_generate {ctx : Context} {d : Database} {texts : OrderedMap String}
    (h : d.generate ctx = .ok texts) {e : String × String} (he : e ∈ texts.entries) :
    ∃ t ∈ d.tables, ∃ c model, ModuleContent.of ctx d.relations t = .ok c ∧
      ctx.settings.modelName t = .ok model ∧ e = (t.name.qualified, (c.write ctx model).text) := by
  obtain ⟨modules, hmodules, htexts⟩ := bind_eq_ok.mp h
  cases htexts
  obtain ⟨m, hm, rfl⟩ := List.mem_map.mp (OrderedMap.mem_of_mem_ofList he)
  obtain ⟨t, ht, hgenerate⟩ := exists_of_mem_mapM hmodules m hm
  obtain ⟨htable, c, model, hc, hmodel, rfl⟩ := Table.of_generate_eq_ok hgenerate
  exact ⟨t, ht, c, model, hc, hmodel, congrArg (·, _) htable⟩

end SchemaModels
