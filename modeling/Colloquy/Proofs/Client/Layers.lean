import Colloquy.Options

/-!
# Layers over and under a request

A layer over another wins wherever it sets something, so a stack of layers says for every setting what
the first of them says that sets it at all. Defaults are laid under a request by laying the request over
a copy of itself with the defaults on top; the copy is hidden again, so this comes to the same.
-/
set_option autoImplicit false

namespace Colloquy

attribute [ext] Layer Request

theorem firstSet_of_set {v : Value} (set : v.isNull = false) (w : Value) : firstSet v w = v := by
  rw [firstSet, set]
  rfl

theorem null_firstSet (v : Value) : firstSet .null v = v := rfl

theorem firstSet_null (v : Value) : firstSet v .null = v := by
  cases v <;> rfl

theorem firstSet_self (v : Value) : firstSet v v = v := by
  cases v <;> rfl

theorem firstSet_assoc (a b c : Value) :
    firstSet (firstSet a b) c = firstSet a (firstSet b c) := by
  cases hA : a.isNull with
  | true => rw [Value.eq_null_of_isNull hA, null_firstSet, null_firstSet]
  | false => rw [firstSet_of_set hA, firstSet_of_set hA, firstSet_of_set hA]

theorem firstSet_firstSet (a b : Value) : firstSet a (firstSet b a) = firstSet a b := by
  cases hA : a.isNull with
  | true => rw [Value.eq_null_of_isNull hA, null_firstSet, null_firstSet, firstSet_null]
  | false => rw [firstSet_of_set hA, firstSet_of_set hA]

def firstOf (vs : List Value) : Value :=
  (vs.find? fun v => !v.isNull).getD .null

theorem firstOf_nil : firstOf [] = .null := rfl

theorem firstOf_cons (v : Value) (vs : List Value) : firstOf (v :: vs) = firstSet v (firstOf vs) := by
  cases hV : v.isNull with
  | true =>
    rw [Value.eq_null_of_isNull hV]
    rfl
  | false => simp [firstOf, firstSet_of_set hV, hV]

namespace Layer

theorem over_self (a : Layer) : a.over a = a := by
  apply Layer.ext
  · funext key
    exact firstSet_self _
  · exact Option.or_self

theorem over_assoc (a b c : Layer) : (a.over b).over c = a.over (b.over c) := by
  apply Layer.ext
  · funext key
    exact firstSet_assoc ..
  · exact Option.or_assoc

theorem over_empty (a : Layer) : a.over {} = a := by
  apply Layer.ext
  · funext key
    exact firstSet_null _
  · exact Option.or_none

theorem over_over (a b : Layer) : a.over (b.over a) = a.over b := by
  apply Layer.ext
  · funext key
    exact firstSet_firstSet ..
  · cases hTools : a.tools <;> simp [Layer.over, hTools]

/-- Of the layer below, only what the upper one leaves open shows. -/
theorem over_congr {a b c : Layer}
    (settings : ∀ key, (a.settings key).isNull = true → b.settings key = c.settings key)
    (tools : a.tools = none → b.tools = c.tools) : a.over b = a.over c := by
  apply Layer.ext
  · funext key
    cases hA : (a.settings key).isNull with
    | true => exact congrArg (firstSet (a.settings key)) (settings key hA)
    | false => exact (firstSet_of_set hA _).trans (firstSet_of_set hA _).symm
  · cases hTools : a.tools with
    | none => exact congrArg a.tools.or (tools hTools)
    | some ts => simp [Layer.over, hTools]

def stacked (layers : List Layer) : Layer where
  settings := fun key => firstOf (layers.map fun l => l.settings key)
  tools := layers.findSome? Layer.tools

theorem stacked_nil : stacked [] = {} := rfl

theorem stacked_cons (l : Layer) (layers : List Layer) :
    stacked (l :: layers) = l.over (stacked layers) := by
  apply Layer.ext
  · funext key
    exact firstOf_cons ..
  · cases hTools : l.tools <;> simp [stacked, Layer.over, hTools]

end Layer

inductive FieldSource where
  | options (o : CallOptions)
  | request (r : Request)

def FieldSource.layer : FieldSource → Layer
  | options o => o.layer
  | request r => r.layer

namespace Request

/-- The layers that speak for a merged request, the first of them first. -/
def voices (r : Request) (call defaults : Option Layer) : List Layer :=
  call.toList ++ r.layer :: defaults.toList

def resolving (r : Request) (tools : List Tool) : Request :=
  if tools = [] then r else { r with layer := { r.layer with tools := some tools } }

theorem underlay_eq (r : Request) (l : Layer) : r.underlay l = { r with layer := r.layer.over l } := by
  rw [underlay, overlay, overlay, Layer.over_over]

theorem merge_eq (r : Request) (call defaults : Option Layer) (tools : List Tool) :
    r.merge call defaults tools =
      resolving { r with layer := .stacked (r.voices call defaults) } tools := by
  cases call <;> cases defaults <;>
    simp [merge, resolving, voices, underlay_eq, overlay, Layer.stacked_cons, Layer.stacked_nil,
      Layer.over_empty, Layer.over_assoc]

theorem stacked_voices (r : Request) (call defaults : Option Layer) :
    Layer.stacked (voices { r with layer := .stacked (r.voices call defaults) } call defaults) =
      .stacked (r.voices call defaults) := by
  have twice (a b : Layer) : a.over (a.over b) = a.over b := by
    rw [← Layer.over_assoc, Layer.over_self]
  have under (a b : Layer) : (a.over b).over b = a.over b := by
    rw [Layer.over_assoc, Layer.over_self]
  cases call <;> cases defaults <;>
    simp [voices, Layer.stacked_cons, Layer.stacked_nil, Layer.over_empty, ← Layer.over_assoc,
      twice, under]

/-- The settings of the layers do not depend on the tools that replaced those in the middle. -/
theorem merge_merge (r : Request) (call defaults : Option Layer) (tools : List Tool) :
    (r.merge call defaults tools).merge call defaults tools = r.merge call defaults tools := by
  have stacked := r.stacked_voices call defaults
  rw [merge_eq, merge_eq]
  by_cases none : tools = []
  · rw [resolving, resolving, if_pos none, if_pos none, stacked]
  · rw [resolving, resolving, if_neg none, if_neg none]
    have settings (key : Setting) := congrFun (congrArg Layer.settings stacked) key
    simp only [Layer.stacked, voices, List.map_append, List.map_cons] at settings ⊢
    simp only [settings]

/-- What a request comes to between layers, for each of its fields. -/
structure Layered (r merged : Request) (voices : List Layer) (tools : List Tool) : Prop where
  messages : merged.messages = r.messages
  stream : merged.stream = r.stream
  settings : ∀ key, merged.layer.settings key = firstOf (voices.map fun l => l.settings key)
  tools : merged.layer.tools = if tools = [] then voices.findSome? Layer.tools else some tools

theorem layered_merge (r : Request) (call defaults : Option Layer) (tools : List Tool) :
    r.Layered (r.merge call defaults tools) (r.voices call defaults) tools := by
  rw [merge_eq]
  by_cases none : tools = []
  · rw [resolving, if_pos none]
    exact ⟨rfl, rfl, fun _ => rfl, (if_pos none).symm⟩
  · rw [resolving, if_neg none]
    exact ⟨rfl, rfl, fun _ => rfl, (if_neg none).symm⟩

theorem overlay_overlay (r : Request) (a b : Layer) :
    (r.overlay b).overlay a = { r with layer := .stacked [a, b, r.layer] } := by
  rw [overlay, overlay, Layer.stacked_cons, Layer.stacked_cons, Layer.stacked_cons, Layer.stacked_nil,
    Layer.over_empty]

def between (r : Request) (call defaults : Option FieldSource) (tools : Option (List Tool)) : Request :=
  r.merge (call.map FieldSource.layer) (defaults.map FieldSource.layer) (tools.getD [])

end Request

def FieldSource.onto (a : FieldSource) (r : Request) : Request := r.overlay a.layer

/-- Every field of a merged request is what the first says that sets it, of the per-call fields, the
request and the defaults; merging again changes nothing. Of two sources laid over a request one upon the
other, the lower counts only in the fields that the upper leaves open, and of either nothing but its
fields. -/
theorem Request.merge_layered (r : Request) (call defaults : Option FieldSource)
    (tools : Option (List Tool)) :
    r.Layered (r.between call defaults tools)
      (r.voices (call.map FieldSource.layer) (defaults.map FieldSource.layer)) (tools.getD []) ∧
    (r.between call defaults tools).between call defaults tools = r.between call defaults tools ∧
    ∀ a b : FieldSource, r.Layered (a.onto (b.onto r)) [a.layer, b.layer, r.layer] [] ∧
      ∀ a' b' : FieldSource, a'.layer = a.layer →
        (∀ key, (a.layer.settings key).isNull = true → b'.layer.settings key = b.layer.settings key) →
        (a.layer.tools = none → b'.layer.tools = b.layer.tools) →
        a'.onto (b'.onto r) = a.onto (b.onto r) := by
  refine ⟨layered_merge .., merge_merge .., ?_⟩
  intro a b
  constructor
  · rw [FieldSource.onto, FieldSource.onto, overlay_overlay]
    exact ⟨rfl, rfl, fun _ => rfl, (if_pos rfl).symm⟩
  · intro a' b' upper settings tools
    simp only [FieldSource.onto, overlay, upper, ← Layer.over_assoc]
    rw [Layer.over_congr settings tools]

example : firstOf [.null, .str "", .int 5] = .str "" := rfl

end Colloquy
