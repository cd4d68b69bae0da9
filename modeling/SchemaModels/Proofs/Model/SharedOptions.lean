import SchemaModels.Proofs.Model.RepeatedKeys

/-!
# Shared options, from the steps that set them to the text

The options that all models share are set one after the other, either on a value that is handed on
from step to step or in the place where the options are kept. Whichever it is, a step puts one entry
(`OptionStep.run_eq`), so that a run of steps is the map of their entries (`afterSteps_eq`): each
key is there once, in the place where it first came, with the value that came last.

In the options of a model the shared ones stand between those that it has of its own. What becomes
of a shared option depends on its key and its value only (`TableOption.passedAs?`), although the
generator asks the map whether to fix names: the value it finds there is the one of the entry it is
at. So the text has, in the order of the keys, what the value that came last under each key becomes,
and each of these entries begins with its key (`followsSteps_afterSteps`).
-/

namespace SchemaModels

open Text

/-! ## Steps -/

/-- A step that sets an option. -/
inductive OptionStep where
  /-- On options that are handed on. -/
  | handedOn (key : String) (value : OptionValue)
  /-- On options that are changed in their place. -/
  | inPlace (key : String) (value : OptionValue)
  deriving DecidableEq

namespace OptionStep

/-- The key with the value that is set under it. -/
def entry : OptionStep → String × OptionValue
  | handedOn key value => (key, value)
  | inPlace key value => (key, value)

/-- Takes the step where the options are the state. -/
def run : OptionStep → StateM ModelOptions Unit
  | handedOn key value => do
    let options ← get
    set (OrderedMap.insert options key value)
  | inPlace key value => modify fun options => OrderedMap.insert options key value

/-- Both kinds of steps put their entry. -/
theorem run_eq (s : OptionStep) (o : ModelOptions) :
    s.run.run o = ((), o.insert s.entry.1 s.entry.2) := by
  cases s with
  | handedOn key value => rfl
  | inPlace key value => rfl

end OptionStep

/-- The options after the steps, starting without any. -/
def afterSteps (steps : List OptionStep) : ModelOptions :=
  ((forM steps OptionStep.run).run .empty).2

/-- A run puts one entry after the other. -/
theorem run_forM_eq : ∀ (steps : List OptionStep) (o : ModelOptions),
    (forM steps OptionStep.run).run o
      = ((), (steps.map (·.entry)).foldl (fun m e => m.insert e.1 e.2) o) := by
  intro steps
  induction steps with
  | nil => exact fun _ => rfl
  | cons s steps ih =>
    intro o
    rw [List.map_cons, List.foldl_cons, ← ih, List.forM_cons, StateT.run_bind, s.run_eq]
    rfl

/-- **After a run, the options are the map of the entries.** -/
theorem afterSteps_eq (steps : List OptionStep) :
    afterSteps steps = OrderedMap.ofList (steps.map (·.entry)) := by
  rw [afterSteps, run_forM_eq]
  rfl

/-- The keys that the steps set, in the order in which they first came. -/
def keysSet (steps : List OptionStep) : List String :=
  (steps.map (·.entry.1)).eraseDups

/-- The value that was set last under the key. -/
def lastSet? (steps : List OptionStep) (key : String) : Option OptionValue :=
  ((steps.filter (·.entry.1 = key)).getLast?).map (·.entry.2)

theorem keys_afterSteps (steps : List OptionStep) : (afterSteps steps).keys = keysSet steps := by
  rw [afterSteps_eq, OrderedMap.keys_ofList, keysSet, List.map_map]
  rfl

theorem get?_afterSteps (steps : List OptionStep) (key : String) :
    (afterSteps steps).get? key = lastSet? steps key := by
  rw [afterSteps_eq, OrderedMap.get?_ofList, lastSet?, List.filter_map, List.getLast?_map,
    Option.map_map]
  rfl

/-! ## What becomes of an option -/

namespace TableOption

/-- The option of a model that a shared one becomes. Timestamps and soft deletion are decided
elsewhere, and names are fixed unless that is switched off. -/
def passedAs? (t : Table) (key : String) (value : OptionValue) : Option TableOption :=
  if key = "timestamps" ∨ key = "paranoid" then none
  else if key = "name" then
    if value = .bool false then none else some (fixedNames t.name.qualified)
  else some (shared key value)

/-- The map has the value of the entry that is looked at. -/
theorem ofShared_eq {o : ModelOptions} {key : String} {value : OptionValue}
    (h : o.get? key = some value) (t : Table) :
    ofShared o t key value = (passedAs? t key value).toList := by
  unfold ofShared passedAs?
  by_cases htimes : key = "timestamps"
  · simp [htimes]
  by_cases hparanoid : key = "paranoid"
  · simp [hparanoid]
  by_cases hname : key = "name"
  · subst hname
    have hfixes : o.fixesNames = decide (value ≠ .bool false) := by
      rw [ModelOptions.fixesNames, h]
    by_cases hoff : value = .bool false <;> simp [hfixes, hoff]
  · simp [htimes, hparanoid, hname]

/-- The shared options become what their values make of them, key by key. -/
theorem passed_eq (ctx : Context) (t : Table) : passed ctx t
    = ctx.settings.options.keys.filterMap fun key =>
        (ctx.settings.options.get? key).bind (passedAs? t key) := by
  rw [passed, OrderedMap.keys, List.filterMap_map, List.filterMap_eq_flatMap_toList]
  apply List.flatMap_congr
  intro e he
  have hvalue : ctx.settings.options.get? e.1 = some e.2 := OrderedMap.get?_eq_some_iff.mpr he
  rw [ofShared_eq hvalue, Function.comp_apply, hvalue]
  rfl

end TableOption

/-! ## From the steps to the text -/

/-- The option goes to the models: all but those for timestamps and soft deletion do, and the one
for names unless it was switched off last. -/
def goesToModels (steps : List OptionStep) (key : String) : Bool :=
  key ≠ "timestamps" && key ≠ "paranoid" &&
    (key ≠ "name" || lastSet? steps "name" ≠ some (.bool false))

/-- What the steps make of the options of a model, between those that it has of its own. -/
def TableOption.passedAfter (steps : List OptionStep) (t : Table) : List TableOption :=
  (keysSet steps).filterMap fun key => (lastSet? steps key).bind (passedAs? t key)

/-- The options are those that the steps have set, and so they are in the text of every model. -/
structure ModelOptions.FollowsSteps (steps : List OptionStep) (o : ModelOptions) : Prop where
  /-- Each key is there once, in the order in which they first came, -/
  keys : o.keys = keysSet steps
  nodup : o.keys.Nodup
  /-- with the value that was set last. -/
  values : ∀ e ∈ o.entries, lastSet? steps e.1 = some e.2
  /-- Asking for a key finds the entry with it. -/
  found : ∀ key value, o.get? key = some value ↔ (key, value) ∈ o.entries
  /-- Steps of the other kind do the same. -/
  anyKind : ∀ others : List OptionStep,
    others.map (·.entry) = steps.map (·.entry) → afterSteps others = o
  /-- A model has one option for each key that goes to the models, in their order, -/
  passedKeys : ∀ t : Table,
    (TableOption.passedAfter steps t).map (·.key) = (keysSet steps).filter (goesToModels steps)
  /-- and they are written after the options for soft deletion and before the indexes. -/
  text : ∀ ctx : Context, ctx.settings.options = o → ∀ t : Table,
    (t.definition ctx).render ctx
      = (t.definition ctx).renderBlocks ctx ++ ctx.indent 1 ++ "\x7d, \x7b\n"
        ++ String.intercalate ",\n"
          ((TableOption.ownFront ctx t).map (·.render ctx)
            ++ (TableOption.passedAfter steps t).map (·.render ctx)
            ++ (TableOption.ownBack ctx t).map (·.render ctx))
        ++ "\n" ++ ctx.indent 1 ++ "\x7d"
  /-- What is written there has the keys of these options: those that go to the models, between
  those of the model's own. -/
  written : ∀ ctx : Context, ctx.settings.options = o → ∀ t : Table,
    WritesKeys (ctx.indent 2)
      (String.intercalate ",\n"
        ((TableOption.ownFront ctx t).map (·.render ctx)
          ++ (TableOption.passedAfter steps t).map (·.render ctx)
          ++ (TableOption.ownBack ctx t).map (·.render ctx)))
      ((TableOption.ownFront ctx t).map (·.key) ++ (keysSet steps).filter (goesToModels steps)
        ++ (TableOption.ownBack ctx t).map (·.key))

section Steps

variable (steps : List OptionStep)

theorem TableOption.passed_afterSteps {ctx : Context} (h : ctx.settings.options = afterSteps steps)
    (t : Table) : passed ctx t = passedAfter steps t := by
  rw [passed_eq, h, keys_afterSteps]
  simp only [get?_afterSteps]
  rfl

/-- A key that was set goes to the models just if its option does. -/
theorem isPassed_afterSteps {key : String} (h : key ∈ keysSet steps) :
    TableOption.isPassed (afterSteps steps) key = goesToModels steps key := by
  unfold TableOption.isPassed goesToModels
  by_cases hname : key = "name"
  · subst hname
    rw [← keys_afterSteps, OrderedMap.keys] at h
    obtain ⟨⟨k, value⟩, he, hk⟩ := List.mem_map.mp h
    cases hk
    have hvalue : (afterSteps steps).get? "name" = some value := OrderedMap.get?_eq_some_iff.mpr he
    rw [ModelOptions.fixesNames, hvalue, ← get?_afterSteps, hvalue]
    simp
  · simp [hname]

/-- The options of a model are its own with those from the steps between them. -/
theorem TableOption.ofTable_afterSteps {ctx : Context}
    (h : ctx.settings.options = afterSteps steps) (t : Table) :
    ofTable ctx t = ownFront ctx t ++ passedAfter steps t ++ ownBack ctx t := by
  rw [ofTable_eq, passed_afterSteps steps h]

theorem map_key_passedAfter (t : Table) :
    (TableOption.passedAfter steps t).map (·.key)
      = (keysSet steps).filter (goesToModels steps) := by
  have hsettings : (Context.mk { options := afterSteps steps } default).settings.options
      = afterSteps steps := rfl
  rw [← TableOption.passed_afterSteps steps hsettings t, TableOption.map_key_passed, hsettings,
    keys_afterSteps]
  exact List.filter_congr fun key hkey => isPassed_afterSteps steps hkey

/-- **Options that are set step by step are an ordered map up to the text of the models.** -/
theorem followsSteps_afterSteps : (afterSteps steps).FollowsSteps steps where
  keys := keys_afterSteps steps
  nodup := (afterSteps steps).nodup
  values := by
    intro e he
    rw [← get?_afterSteps]
    exact OrderedMap.get?_eq_some_iff.mpr he
  found := fun _ _ => OrderedMap.get?_eq_some_iff
  anyKind := by
    intro others h
    rw [afterSteps_eq, afterSteps_eq, h]
  passedKeys := map_key_passedAfter steps
  text := by
    intro ctx hctx t
    rw [← List.map_append, ← List.map_append, ← TableOption.ofTable_afterSteps steps hctx]
    rfl
  written := by
    intro ctx hctx t
    have hkeys := TableOption.writesKeys ctx t
    rw [TableOption.keys, Definition.renderOptions, Table.definition,
      TableOption.ofTable_afterSteps steps hctx] at hkeys
    simpa only [List.map_append, map_key_passedAfter] using hkeys

end Steps

/-- A character set that is changed, and names that are not to be fixed in the end. -/
def charsetSteps : List OptionStep :=
  [.inPlace "charset" (.text "utf8"), .handedOn "name" (.bool true),
    .handedOn "charset" (.text "latin1"), .inPlace "name" (.bool false)]

/-- Models that share these options. -/
def withCharset : Context := ⟨{ options := afterSteps charsetSteps }, .mysql⟩

/-- The options of the model for drafts. -/
def charsetText : String :=
  "    sequelize,\n    tableName: 'drafts',\n    modelName: '#TABLE#',\n    timestamps: true,\n"
    ++ "    paranoid: true,\n    charset: 'latin1'"

/-- The character set keeps its place with the value that it was given last, and no names are fixed:
what a model has behind its own options is the character set. -/
theorem followsSteps_charset :
    (afterSteps charsetSteps).keys = ["charset", "name"] ∧
    (afterSteps charsetSteps).get? "charset" = some (.text "latin1") ∧
    ((Table.drafts true).definition withCharset).render withCharset
      = ((Table.drafts true).definition withCharset).renderBlocks withCharset
        ++ withCharset.indent 1 ++ "\x7d, \x7b\n" ++ charsetText ++ "\n"
        ++ withCharset.indent 1 ++ "\x7d" ∧
    WritesKeys (withCharset.indent 2) charsetText
      ["sequelize", "tableName", "modelName", "timestamps", "paranoid", "charset"] := by
  have hfollows : (afterSteps charsetSteps).FollowsSteps charsetSteps :=
    followsSteps_afterSteps charsetSteps
  have hoptions : String.intercalate ",\n"
      ((TableOption.ownFront withCharset (.drafts true)).map (·.render withCharset)
        ++ (TableOption.passedAfter charsetSteps (.drafts true)).map (·.render withCharset)
        ++ (TableOption.ownBack withCharset (.drafts true)).map (·.render withCharset))
      = charsetText := by decide
  have hkeys : (TableOption.ownFront withCharset (.drafts true)).map (·.key)
      ++ (keysSet charsetSteps).filter (goesToModels charsetSteps)
      ++ (TableOption.ownBack withCharset (.drafts true)).map (·.key)
      = ["sequelize", "tableName", "modelName", "timestamps", "paranoid", "charset"] := by decide
  have htext := hfollows.text withCharset rfl (.drafts true)
  have hwritten := hfollows.written withCharset rfl (.drafts true)
  rw [hoptions] at htext hwritten
  rw [hkeys] at hwritten
  exact ⟨hfollows.keys.trans (by decide), (hfollows.found _ _).mpr (by decide), htext, hwritten⟩

end SchemaModels
