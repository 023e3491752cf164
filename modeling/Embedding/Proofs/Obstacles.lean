import Embedding.Proofs.Handlers
import Embedding.World.Object

namespace Embedding

variable {σ α β : Type} (handler : Handler σ) (w : World) (s : σ) (e : Error)

/-- Work that fails at once: nothing has changed. -/
def Attempt.Fails (x : Attempt σ α) : Prop := x.run handler w s = ((.error e, w), s)

/-- A context fails with an error, whatever is done with it. -/
structure ContextId.Fails (c : ContextId) : Prop where
  evaluate : ∀ source, (c.evaluate source).run handler w s = ((.error e, w.dropPending c), s)
  evaluateBinary : ∀ b, (c.evaluateBinary b).run handler w s = ((.error e, w.dropPending c), s)
  compile : ∀ source, Attempt.Fails handler w s e (c.compile source)
  globalObject : Attempt.Fails handler w s e c.globalObject
  register : ∀ f, Attempt.Fails handler w s e (c.register f)

/-- A value fails with an error, whatever is done with it. -/
structure ValueRef.Fails (v : ValueRef) : Prop where
  type : Attempt.Fails handler w s e v.type
  toNative : Attempt.Fails handler w s e v.toNative
  coerceText : Attempt.Fails handler w s e v.coerceText
  asObject : (v.asObject? : Work σ (Option ValueRef)) handler w s = ((none, w), s)
  requireObject : Attempt.Fails handler w s e v.requireObject
  kind : Attempt.Fails handler w s e v.kind
  objectToNative : Attempt.Fails handler w s e v.objectToNative
  get : ∀ name, Attempt.Fails handler w s e (v.get name)
  getIndex : ∀ i, Attempt.Fails handler w s e (v.getIndex i)
  set : ∀ name value, Attempt.Fails handler w s e (v.set name value)
  setValue : ∀ name (x : ValueRef), x.context = v.context → Attempt.Fails handler w s e (v.setValue name x)
  setForeign : ∀ name (x : ValueRef), x.context ≠ v.context →
    Attempt.Fails handler w s (.conversion "value of another context" "property") (v.setValue name x)
  call : ∀ name args, Attempt.Fails handler w s e (v.call name args)
  setFunction : ∀ name f, Attempt.Fails handler w s e (v.setFunction name f)
  requireView : ∀ view, Attempt.Fails handler w s e (v.requireView view)
  countIn : ∀ view, Attempt.Fails handler w s e (v.countIn view)
  contentsIn : ∀ view, Attempt.Fails handler w s e (v.contentsIn view)

variable {handler w s e}

theorem Attempt.Fails.bind {x : Attempt σ α} (h : Attempt.Fails handler w s e x) (f : α → Attempt σ β) :
    Attempt.Fails handler w s e (x >>= f) := run_bind_of_error handler w s h f

section

variable {c : ContextId} (h : w.contextObstacle? c = some e)
include h

theorem fails_inside (x : Guest.Bridge α) : Attempt.Fails handler w s e (c.inside x) := inside_of_obstacle handler s x h

theorem evaluateWith_fails (x : Guest.Bridge Guest.Value) :
    (c.evaluateWith x).run handler w s = ((.error e, w.dropPending c), s) := by
  have hdropped : (w.dropPending c).contextObstacle? c = some e :=
    (World.contextObstacle?_of_life (w.life_dropPending c) c).trans h
  have hholding : Attempt.Fails handler (w.dropPending c) s e (c.insideHolding x) := (fails_inside hdropped _).bind _
  exact hholding.bind _

theorem ContextId.fails : c.Fails handler w s e where
  evaluate _ := evaluateWith_fails h _
  evaluateBinary _ := evaluateWith_fails h _
  compile _ := fails_inside h _
  globalObject := (fails_inside h _).bind _
  register _ := (fails_inside h _).bind _

end

theorem ValueRef.fails {v : ValueRef} (h : w.contextObstacle? v.context = some e) : v.Fails handler w s e where
  type := fails_inside h _
  toNative := fails_inside h _
  coerceText := fails_inside h _
  asObject := by
    have htype : (v.type : Attempt σ ValueType).run handler w s = ((.error e, w), s) := fails_inside h _
    unfold ValueRef.asObject?
    simp only [bind, ReaderT.bind, StateT.bind, htype]
    rfl
  requireObject := (fails_inside h _).bind _
  kind := fails_inside h _
  objectToNative := fails_inside h _
  get _ := (fails_inside h _).bind _
  getIndex _ := (fails_inside h _).bind _
  set _ _ := fails_inside h _
  setValue _ x hx := by
    have hsame : ¬ (v.context != x.context) = true := by simp [hx]
    unfold ValueRef.setValue
    rw [if_neg hsame]
    exact fails_inside h _
  setForeign _ x hx := by
    have hother : (v.context != x.context) = true := by simpa using Ne.symm hx
    unfold ValueRef.setValue
    rw [if_pos hother]
    rfl
  call _ _ := (fails_inside h _).bind _
  setFunction _ _ := (fails_inside h _).bind _
  requireView _ := (fails_inside h _).bind _
  countIn _ := fails_inside h _
  contentsIn _ := fails_inside h _

end Embedding
