import SchemaModels.Naming.Inflection.Pattern

/-!
# The rules of inflection

English plural and singular forms: the irregular pairs, the words that have one form only, and the
endings with their replacements. In both lists of endings a later rule wins over an earlier one.
In a replacement `$0` stands for the ending that was found and `$1`, `$2` for the groups of its
pattern.
-/

namespace SchemaModels.Naming

open Pattern

/-- An ending and what it is replaced by. -/
structure EndingRule where
  ending : Pattern
  replacement : String
  deriving DecidableEq

/-- Singular and plural forms that follow no rule. Of two pairs with the same form, the later one
counts for that form. -/
def irregularPairs : List (String × String) := [
  ("I", "we"), ("me", "us"), ("he", "they"), ("she", "they"), ("them", "them"),
  ("myself", "ourselves"), ("yourself", "yourselves"), ("itself", "themselves"),
  ("herself", "themselves"), ("himself", "themselves"), ("themself", "themselves"),
  ("is", "are"), ("was", "were"), ("has", "have"), ("this", "these"), ("that", "those"),
  ("my", "our"), ("its", "their"), ("his", "their"), ("her", "their"), ("echo", "echoes"),
  ("dingo", "dingoes"), ("volcano", "volcanoes"), ("tornado", "tornadoes"),
  ("torpedo", "torpedoes"), ("genus", "genera"), ("viscus", "viscera"), ("stigma", "stigmata"),
  ("stoma", "stomata"), ("dogma", "dogmata"), ("lemma", "lemmata"), ("schema", "schemata"),
  ("anathema", "anathemata"), ("ox", "oxen"), ("axe", "axes"), ("die", "dice"), ("yes", "yeses"),
  ("foot", "feet"), ("eave", "eaves"), ("goose", "geese"), ("tooth", "teeth"),
  ("quiz", "quizzes"), ("human", "humans"), ("proof", "proofs"), ("carve", "carves"),
  ("valve", "valves"), ("looey", "looies"), ("thief", "thieves"), ("groove", "grooves"),
  ("pickaxe", "pickaxes"), ("passerby", "passersby"), ("canvas", "canvases")]

/-- Words with one form only. -/
def uncountableWords : List String := [
  "adulthood", "advice", "agenda", "aid", "aircraft", "alcohol", "ammo", "analytics", "anime",
  "athletics", "audio", "bison", "blood", "bream", "buffalo", "butter", "carp", "cash",
  "chassis", "chess", "clothing", "cod", "commerce", "cooperation", "corps", "debris",
  "diabetes", "digestion", "elk", "energy", "equipment", "excretion", "expertise", "firmware",
  "flounder", "fun", "gallows", "garbage", "graffiti", "hardware", "headquarters", "health",
  "herpes", "highjinks", "homework", "housework", "information", "jeans", "justice", "kudos",
  "labour", "literature", "machinery", "mackerel", "mail", "media", "mews", "moose", "music",
  "mud", "manga", "news", "only", "personnel", "pike", "plankton", "pliers", "police",
  "pollution", "premises", "rain", "research", "rice", "salmon", "scissors", "series", "sewage",
  "shambles", "shrimp", "software", "staff", "swine", "tennis", "traffic", "transportation",
  "trout", "tuna", "wealth", "welfare", "whiting", "wildebeest", "wildlife", "you"]

/-- Stems that end in `us` in the singular and in `i` in the plural. -/
def usStems : Pattern :=
  oneOf ["alumn", "syllab", "vir", "radi", "nucle", "fung", "cact", "stimul", "termin", "bacill",
    "foc", "uter", "loc", "strat"]

/-- Stems that end in `on` in the singular and in `a` in the plural. -/
def onStems : Pattern :=
  oneOf ["apheli", "hyperbat", "periheli", "asyndet", "noumen", "phenomen", "criteri", "organ",
    "prolegomen", "hedr", "automat"]

/-- Endings with one form only: they are replaced by themselves. -/
def uncountableEndings : List EndingRule := [
  ⟨"pok" ++ among "eé" ++ "mon", "$0"⟩,
  ⟨besides "aeiou" ++ "ese", "$0"⟩,
  ⟨"deer", "$0"⟩,
  ⟨"fish", "$0"⟩,
  ⟨"measles", "$0"⟩,
  ⟨"o" ++ among "iu" ++ "s", "$0"⟩,
  ⟨"pox", "$0"⟩,
  ⟨"sheep", "$0"⟩]

/-- Endings of singular forms and the plural forms they become. -/
def pluralEndings : List EndingRule := [
  ⟨maybe "s", "s"⟩,
  ⟨char .nonAscii, "$0"⟩,
  ⟨group (besides "aeiou" ++ "ese"), "$1"⟩,
  ⟨group (oneOf ["ax", "test"]) ++ "is", "$1es"⟩,
  ⟨group (oneOf ["alias", besides "aou" ++ "us", "t" ++ among "lm" ++ "as", "gas", "ris"]), "$1es"⟩,
  ⟨group ("e" ++ among "mn" ++ "u") ++ maybe "s", "$1s"⟩,
  ⟨group (oneOf [besides "l" ++ "ias", among "aeiou" ++ "las", among "ejzr" ++ "as",
    among "iu" ++ "am"]), "$1"⟩,
  ⟨group usStems ++ oneOf ["us", "i"], "$1i"⟩,
  ⟨group (oneOf ["alumn", "alg", "vertebr"]) ++ oneOf ["a", "ae"], "$1ae"⟩,
  ⟨group (oneOf ["seraph", "cherub"]) ++ maybe "im", "$1im"⟩,
  ⟨group (oneOf ["her", "at", "gr"]) ++ "o", "$1oes"⟩,
  ⟨group (oneOf ["agend", "addend", "millenni", "dat", "extrem", "bacteri", "desiderat", "strat",
    "candelabr", "errat", "ov", "symposi", "curricul", "automat", "quor"]) ++ oneOf ["a", "um"],
    "$1a"⟩,
  ⟨group onStems ++ oneOf ["a", "on"], "$1a"⟩,
  ⟨"sis", "ses"⟩,
  ⟨oneOf [group (oneOf ["kni", "wi", "li"]) ++ "fe",
    group (oneOf ["ar", "l", "ea", "eo", "oa", "hoo"]) ++ "f"], "$1$2ves"⟩,
  ⟨group (oneOf [besides "aeiouy", "qu"]) ++ "y", "$1ies"⟩,
  ⟨group (besides "ch" ++ among "ieo" ++ among "ln") ++ "ey", "$1ies"⟩,
  ⟨group (oneOf ["x", "ch", "ss", "sh", "zz"]), "$1es"⟩,
  ⟨group (oneOf ["matr", "cod", "mur", "sil", "vert", "ind", "append"]) ++ oneOf ["ix", "ex"],
    "$1ices"⟩,
  ⟨wordEdge ++ group (oneOf [maybe "tit" ++ "m", "l"]) ++ oneOf ["ice", "ouse"], "$1ice"⟩,
  ⟨group "pe" ++ oneOf ["rson", "ople"], "$1ople"⟩,
  ⟨group "child" ++ maybe "ren", "$1ren"⟩,
  ⟨"eaux", "$0"⟩,
  ⟨"m" ++ among "ae" ++ "n", "men"⟩,
  ⟨start ++ "thou", "you"⟩]

/-- Endings of plural forms and the singular forms they become. -/
def singularEndings : List EndingRule := [
  ⟨"s", ""⟩,
  ⟨group "ss", "$1"⟩,
  ⟨group (oneOf ["wi", "kni", oneOf ["after", "half", "high", "low", "mid", "non", "night",
    char .nonWord, start] ++ "li"]) ++ "ves", "$1fe"⟩,
  ⟨group (oneOf ["ar", oneOf ["wo", among "ae"] ++ "l", among "eo" ++ among "ao"]) ++ "ves", "$1f"⟩,
  ⟨"ies", "y"⟩,
  ⟨group (oneOf ["dg", "ss", "ois", "lk", "ok", "wn", "mb", "th", "ch", "ec", "oal", "is", "ck",
    "ix", "sser", "ts", "wb"]) ++ "ies", "$1ie"⟩,
  ⟨wordEdge ++ group (oneOf ["l", maybe (oneOf ["neck", "cross", "hog", "aun"]) ++ "t", "coll",
    "faer", "food", "gen", "goon", "group", "hipp", "junk", "vegg", maybe "pork" ++ "p", "charl",
    "calor", "cut"]) ++ "ies", "$1ie"⟩,
  ⟨wordEdge ++ group (oneOf ["mon", "smil"]) ++ "ies", "$1ey"⟩,
  ⟨wordEdge ++ group (oneOf [maybe "tit" ++ "m", "l"]) ++ "ice", "$1ouse"⟩,
  ⟨group (oneOf ["seraph", "cherub"]) ++ "im", "$1"⟩,
  ⟨group (oneOf ["x", "ch", "ss", "sh", "zz", "tto", "go", "cho", "alias", besides "aou" ++ "us",
    "t" ++ among "lm" ++ "as", "gas", oneOf ["her", "at", "gr"] ++ "o", among "aeiou" ++ "ris"])
    ++ maybe "es", "$1"⟩,
  ⟨group (oneOf ["analy", "diagno", "parenthe", "progno", "synop", "the", "empha", "cri", "ne"])
    ++ oneOf ["sis", "ses"], "$1sis"⟩,
  ⟨group (oneOf ["movie", "twelve", "abuse", "e" ++ among "mn" ++ "u"]) ++ "s", "$1"⟩,
  ⟨group "test" ++ oneOf ["is", "es"], "$1is"⟩,
  ⟨group usStems ++ oneOf ["us", "i"], "$1us"⟩,
  ⟨group (oneOf ["agend", "addend", "millenni", "dat", "extrem", "bacteri", "desiderat", "strat",
    "candelabr", "errat", "ov", "symposi", "curricul", "quor"]) ++ "a", "$1um"⟩,
  ⟨group onStems ++ "a", "$1on"⟩,
  ⟨group (oneOf ["alumn", "alg", "vertebr"]) ++ "ae", "$1a"⟩,
  ⟨group (oneOf ["cod", "mur", "sil", "vert", "ind"]) ++ "ices", "$1ex"⟩,
  ⟨group (oneOf ["matr", "append"]) ++ "ices", "$1ix"⟩,
  ⟨group "pe" ++ group (oneOf ["rson", "ople"]), "$1rson"⟩,
  ⟨group "child" ++ "ren", "$1"⟩,
  ⟨group "eau" ++ maybe "x", "$1"⟩,
  ⟨"men", "man"⟩]

end SchemaModels.Naming
