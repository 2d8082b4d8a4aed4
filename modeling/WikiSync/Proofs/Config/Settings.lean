import WikiSync.Config.Layer

/-!
# Settings in Layers

A layer as a function from settings to values. The settings are listed once, each
with the type of its value, so that a statement about all of them is one statement
and not ten. A layer is determined by its values. One layer on top of another has
a value for each setting that depends on that setting alone.

The laws of layers come from this. What many layers say together is what the
uppermost of them says in which the setting is set, and `winners` says that
without putting layers on top of each other.

## Main definitions

* `ConfigKey`: The settings.
* `ConfigValues`: Values for the settings that are set.
* `ConfigLayer.get`, `ConfigLayer.winners`: The values in a layer, and in many.

## Theorems

* `ConfigLayer.get_withDefaults`, `ConfigLayer.ext_get`: Layers by their values.
* `ConfigLayer.withDefaults_assoc`, `ConfigLayer.withDefaults_empty`,
  `ConfigLayer.empty_withDefaults`: The laws of layers.
* `ConfigLayer.get_foldr_withDefaults`: Many layers on top of each other.
-/

namespace WikiSync

/-- The settings. -/
inductive ConfigKey where
  | domain
  | space
  | email
  | apiToken
  | parentPageId
  | mermaid
  | krokiUrl
  | timeoutSecs
  | dryRun
  | verbose

/-- What a setting is set to. -/
abbrev ConfigKey.Value : ConfigKey → Type
  | domain | space | email | apiToken | parentPageId | krokiUrl => String
  | mermaid | dryRun | verbose => Bool
  | timeoutSecs => Nat

/-- Values for the settings that are set. -/
abbrev ConfigValues : Type :=
  (k : ConfigKey) → Option k.Value

namespace ConfigLayer

/-- The values in a layer. -/
def get (l : ConfigLayer) : ConfigValues
  | .domain => l.domain
  | .space => l.space
  | .email => l.email
  | .apiToken => l.apiToken
  | .parentPageId => l.parentPageId
  | .mermaid => l.mermaid
  | .krokiUrl => l.krokiUrl
  | .timeoutSecs => l.timeoutSecs
  | .dryRun => l.dryRun
  | .verbose => l.verbose

/-- The values in many layers, the upper ones first. For each setting the uppermost
layer counts in which it is set. -/
def winners (layers : List ConfigLayer) : ConfigValues :=
  fun k => layers.findSome? fun l => l.get k

/-- A layer is determined by its values. -/
theorem ext_get {l l' : ConfigLayer} (h : ∀ k, l.get k = l'.get k) : l = l' := by
  rcases l with ⟨domain, space, email, apiToken, parentPageId, mermaid, krokiUrl, timeoutSecs,
    dryRun, verbose⟩
  obtain rfl : domain = _ := h .domain
  obtain rfl : space = _ := h .space
  obtain rfl : email = _ := h .email
  obtain rfl : apiToken = _ := h .apiToken
  obtain rfl : parentPageId = _ := h .parentPageId
  obtain rfl : mermaid = _ := h .mermaid
  obtain rfl : krokiUrl = _ := h .krokiUrl
  obtain rfl : timeoutSecs = _ := h .timeoutSecs
  obtain rfl : dryRun = _ := h .dryRun
  obtain rfl : verbose = _ := h .verbose
  rfl

@[simp]
theorem get_empty (k : ConfigKey) : empty.get k = none := by
  cases k <;> rfl

/-- Of two layers, the lower one counts where the upper one has no value. No other
setting matters. -/
@[simp]
theorem get_withDefaults (upper lower : ConfigLayer) (k : ConfigKey) :
    (upper.withDefaults lower).get k = (upper.get k).or (lower.get k) := by
  cases k <;> rfl

/-! ### Many layers -/

theorem withDefaults_assoc (a b c : ConfigLayer) :
    (a.withDefaults b).withDefaults c = a.withDefaults (b.withDefaults c) :=
  ext_get fun k => by simp only [get_withDefaults, Option.or_assoc]

theorem withDefaults_empty (l : ConfigLayer) : l.withDefaults empty = l :=
  ext_get fun k => by simp only [get_withDefaults, get_empty, Option.or_none]

theorem empty_withDefaults (l : ConfigLayer) : empty.withDefaults l = l :=
  ext_get fun k => by simp only [get_withDefaults, get_empty, Option.none_or]

/-- Layers on top of each other have the values of the uppermost layers in which
the settings are set. -/
theorem get_foldr_withDefaults (layers : List ConfigLayer) :
    (layers.foldr withDefaults empty).get = winners layers := by
  funext k
  induction layers with
  | nil => exact get_empty k
  | cons l layers ih =>
    rw [List.foldr_cons, get_withDefaults, ih]
    unfold winners
    rw [List.findSome?_cons]
    rcases l.get k with _ | v
    · rfl
    · rfl

end ConfigLayer

end WikiSync
