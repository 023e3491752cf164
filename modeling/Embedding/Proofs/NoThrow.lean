import Embedding.Proofs.Integers
import Embedding.Proofs.RunOutcomes

namespace Embedding.Guest

variable {α β : Type}

def Run.Quiet : Run α → Prop
  | .done _ _ | .stopped _ _ => True
  | .threw _ _ => False
  | .ask _ _ resume => ∀ r, (resume r).Quiet
  | .call _ _ _ resume => ∀ r, (resume r).Quiet

namespace Run

variable {x : Run α}

theorem quiet_iff : x.Quiet ↔ ∀ log v m, ¬ x.Reaches log (.error (.threw v)) m := by
  induction x with
  | done a m => exact iff_of_true trivial nofun
  | threw v m => exact iff_of_false id fun h => h [] v m .threw
  | stopped why m => exact iff_of_true trivial nofun
  | ask q m resume ih =>
    constructor
    · rintro h _ v m' (_ | _ | _ | hthrew)
      exact (ih _).mp (h _) _ v m' hthrew
    · exact fun h r => (ih r).mpr fun log v m' hthrew => h _ v m' (.ask hthrew)
  | call begun args m resume ih =>
    constructor
    · rintro h _ v m' (_ | _ | _ | _ | hthrew)
      exact (ih _).mp (h _) _ v m' hthrew
    · exact fun h r => (ih r).mpr fun log v m' hthrew => h _ v m' (.call hthrew)

theorem Quiet.andThen {f : α → Machine → Run β} (h : x.Quiet) (hf : ∀ a m, (f a m).Quiet) : (x.andThen f).Quiet := by
  induction x with
  | done a m => exact hf a m
  | threw v m => exact h.elim
  | stopped why m => trivial
  | ask q m resume ih => exact fun r => ih r (h r)
  | call begun args m resume ih => exact fun r => ih r (h r)

theorem Quiet.leaving {f : Machine → Machine} (h : x.Quiet) : (x.leaving f).Quiet := by
  induction x with
  | done a m => trivial
  | threw v m => exact h
  | stopped why m => trivial
  | ask q m resume ih => exact fun r => ih r (h r)
  | call begun args m resume ih => exact fun r => ih r (h r)

theorem Quiet.orElse {f : Value → Machine → Run α} (hf : ∀ v m, (f v m).Quiet) : (x.orElse f).Quiet := by
  induction x with
  | done a m => trivial
  | threw v m => exact hf v m
  | stopped why m => trivial
  | ask q m resume ih => exact ih
  | call begun args m resume ih => exact ih

end Run

def Act.Quiet (x : Act α) : Prop := ∀ e m, (x e m).Quiet

namespace Act.Quiet

variable {x : Act α} {f : α → Act β}

theorem pure (a : α) : (Pure.pure a : Act α).Quiet := fun _ _ => trivial

theorem bind (h : x.Quiet) (hf : ∀ a, (f a).Quiet) : (x >>= f).Quiet := fun e m => (h e m).andThen fun a m' => hf a e m'

theorem tryCatch {f : Value → Act α} (hf : ∀ v, (f v).Quiet) : (MonadExcept.tryCatch x f).Quiet :=
  fun e _ => .orElse fun v m' => hf v e m'

theorem holding {vs : List Value} (h : x.Quiet) : (Act.holding vs x).Quiet := fun e _ => (h e _).leaving

theorem deeper (h : x.Quiet) : (Act.deeper x).Quiet := fun e _ => (h e _).leaving

theorem borrowing (h : x.Quiet) : (Act.borrowing x).Quiet := fun e _ => (h e _).leaving

theorem ask (q : Query) {hq : ∀ call, q ≠ .dropCall call} : (Act.ask q hq).Quiet := fun _ _ _ => trivial

theorem stop (why : Stop) : (Act.stop why : Act α).Quiet := fun _ _ => trivial

theorem machine : Act.machine.Quiet := fun _ _ => trivial

theorem modifyMachine {f : Machine → Machine} {hf hborrows} : (Act.modifyMachine f hf hborrows).Quiet := fun _ _ => trivial

theorem hold (v : Value) : (Act.hold v).Quiet := modifyMachine

theorem object (o : ObjectId) : (Act.object o).Quiet := fun _ _ => trivial

theorem putProperty {o : ObjectId} {k : Key} {p : Property} : (Act.putProperty o k p).Quiet := fun _ _ => trivial

theorem newObject {proto : ObjectId} {payload : Payload} : (Act.newObject proto payload).Quiet := fun _ _ => trivial

theorem isCallable {v : Value} : (Act.isCallable v).Quiet := by
  cases v with
  | object o => exact (object o).bind fun _ => pure _
  | _ => exact pure _

theorem forIn {as : List α} {f : α → Act Unit} (hf : ∀ a, (f a).Quiet) :
    (ForIn.forIn as () fun a _ => (do f a; return .yield ()) : Act Unit).Quiet := by
  induction as with
  | nil => exact pure ()
  | cons a as ih =>
    rw [List.forIn_cons]
    exact ((hf a).bind fun _ => pure _).bind fun step => by
      cases step with
      | done _ => exact pure _
      | yield _ => exact ih

end Act.Quiet

def Bridge.Quiet (x : Bridge α) : Prop := Act.Quiet x.run

namespace Bridge

namespace Quiet

variable {x : Bridge α} {f : α → Bridge β}

theorem not_reaches (h : x.Quiet) {e : Engine} {m m' : Machine} {log : List Exchange} {v : Value} :
    ¬ x.Reaches e m log (.error (.cut (.threw v))) m' :=
  Run.quiet_iff.mp (h e m) log v m'

theorem pure (a : α) : (Pure.pure a : Bridge α).Quiet := fun _ _ => trivial

theorem throw (err : Error) : (MonadExcept.throw err : Bridge α).Quiet := fun _ _ => trivial

theorem ofExcept (x : Except Error α) : (Bridge.ofExcept x).Quiet := fun _ _ => trivial

theorem bind (h : x.Quiet) (hf : ∀ a, (f a).Quiet) : (x >>= f).Quiet := by
  intro e m
  rw [run_bind]
  refine (h e m).andThen fun r m' => ?_
  cases r with
  | ok a => exact hf a e m'
  | error err => trivial

theorem map {g : α → β} (h : x.Quiet) : (do return g (← x) : Bridge β).Quiet := h.bind fun _ => pure _

theorem ofGuest {y : Act α} (h : y.Quiet) : (Bridge.ofGuest y).Quiet := Act.Quiet.bind h fun _ => .pure _

theorem ask (q : Query) {hq : ∀ call, q ≠ .dropCall call} : (Bridge.ask q hq).Quiet := ofGuest (.ask q)

theorem holding {vs : List Value} (h : x.Quiet) : (Bridge.holding vs x).Quiet := Act.Quiet.holding h

theorem deeper (h : x.Quiet) : (Bridge.deeper x).Quiet := Act.Quiet.deeper h

theorem borrowing (h : x.Quiet) : (Bridge.borrowing x).Quiet := Act.Quiet.borrowing h

theorem mapM {as : List α} {f : α → Bridge β} (hf : ∀ a, (f a).Quiet) : (as.mapM f).Quiet := by
  induction as with
  | nil => exact pure []
  | cons a as ih =>
    rw [List.mapM_cons]
    exact (hf a).bind fun _ => ih.bind fun _ => pure _

theorem foldlM {as : List α} {f : β → α → Bridge β} {b : β} (hf : ∀ b a, (f b a).Quiet) : (as.foldlM f b).Quiet := by
  induction as generalizing b with
  | nil => exact pure b
  | cons a as ih =>
    rw [List.foldlM_cons]
    exact (hf b a).bind fun _ => ih

end Quiet

theorem quiet_textOrNone (v : Value) : (textOrNone v).Quiet := .tryCatch fun _ => .pure none

theorem quiet_exceptionOf (v : Value) : (exceptionOf v).Quiet := by
  apply Act.Quiet.holding
  refine (quiet_textOrNone v).bind fun cause => ?_
  cases v with
  | object o =>
    refine Act.Quiet.bind (.tryCatch fun _ => .pure _) fun stack => ?_
    cases stack.isUndefined with
    | true => exact Act.Quiet.bind (.pure none) fun _ => .pure _
    | false => exact (quiet_textOrNone stack).bind fun _ => .pure _
  | _ => exact .pure _

theorem Quiet.check (y : Act α) : (Bridge.check y).Quiet :=
  Act.Quiet.tryCatch fun v => (quiet_exceptionOf v).bind fun _ => .pure _

theorem quiet_engineType (v : Value) : (engineType v).Quiet := by
  cases v with
  | number d =>
    simp only [engineType]
    split
    · exact .pure _
    · exact .pure _
  | object o =>
    refine (Act.Quiet.object o).bind fun x => Act.Quiet.bind (.tryCatch fun _ => .pure true) fun isArray => ?_
    cases isArray with
    | true => exact .pure _
    | false =>
      simp only [Bool.false_eq_true, if_false]
      repeat' split
      all_goals exact .pure _
  | _ => exact .pure _

theorem Quiet.wrongType (v : Value) (wanted : String) : (Bridge.wrongType v wanted : Bridge α).Quiet :=
  Quiet.bind (.ofGuest (quiet_engineType v)) fun _ => .throw _

theorem quiet_asDouble (v : Value) : (asDouble v).Quiet := by
  cases v with
  | number d => exact .pure d
  | _ => exact .wrongType _ _

theorem quiet_coerceText (v : Value) : (coerceText v).Quiet := (Quiet.check _).bind fun _ => .ofExcept _

theorem quiet_getProperty (o : ObjectId) (name : String) : (getProperty o name).Quiet := .check _

theorem quiet_countOf (o : ObjectId) (name : String) : (countOf o name).Quiet :=
  (quiet_getProperty o name).bind fun v => (quiet_asDouble v).bind fun _ => .pure _

theorem quiet_callMethod (o : ObjectId) (name : String) (args : List Value) : (callMethod o name args).Quiet := by
  refine (quiet_getProperty o name).bind fun f => Quiet.bind (.ofGuest .isCallable) fun callable => ?_
  cases callable with
  | false => exact (Quiet.wrongType f "function").bind fun _ => .check _
  | true => exact Quiet.bind (.pure ()) fun _ => .check _

theorem quiet_requireLive : requireLive.Quiet := by
  refine (Quiet.ask .isReleased).bind fun released => ?_
  cases released with
  | true => exact .throw _
  | false => exact .pure ()

theorem quiet_kindOf (o : ObjectId) : (kindOf o).Quiet := by
  have hfirst (ks : List Kind) : (firstKind o ks).Quiet := by
    induction ks with
    | nil => exact .pure none
    | cons k ks ih =>
      have htest : (isInstanceOf o k).Quiet := by
        unfold isInstanceOf
        split
        · exact .tryCatch fun _ => .pure true
        · exact .pure false
      refine htest.bind fun passed => ?_
      cases passed with
      | true => exact .pure _
      | false => exact ih
  refine quiet_requireLive.bind fun _ => .borrowing (Quiet.bind (.ofGuest (.tryCatch fun _ => .pure true)) fun isArray => ?_)
  cases isArray with
  | true => exact .pure Kind.array
  | false =>
    refine Quiet.bind (.ofGuest (hfirst Kind.builtins.tail)) fun first => ?_
    cases first with
    | some k => exact (Quiet.ask _).bind fun _ => .pure k
    | none => exact .pure Kind.unknown

theorem quiet_bytesOf (v : Value) : (bytesOf v).Quiet := by
  cases v with
  | object o =>
    refine Quiet.bind (.ofGuest (.object o)) fun x => ?_
    cases x.payload with
    | buffer bytes shared => exact .pure bytes
    | _ => exact .wrongType _ _
  | _ => exact .wrongType _ _

theorem quiet_addWords (a b : Nat) : (addWords a b).Quiet := by
  unfold addWords
  split
  · exact .pure _
  · exact .ofGuest (Act.Quiet.bind .modifyMachine fun _ => .stop _)

theorem quiet_decodeBetween (t : ElementType) (bytes : Array UInt8) (start stop : Nat) :
    (decodeBetween t bytes start stop).Quiet := by
  unfold decodeBetween
  split
  · exact .pure _
  · exact .throw _

theorem quiet_typedItems (t : ElementType) (o : ObjectId) : (typedItems t o).Quiet := by
  refine (quiet_getProperty o "buffer").bind fun buffer => (quiet_bytesOf buffer).bind fun bytes => ?_
  refine (quiet_countOf o "byteOffset").bind fun offset => (quiet_countOf o "byteLength").bind fun length => ?_
  have hrest (bytes : Array UInt8) : (addWords offset length >>= decodeBetween t bytes offset).Quiet :=
    (quiet_addWords offset length).bind fun stop => quiet_decodeBetween t bytes offset stop
  cases buffer.isObject with
  | true => exact (quiet_bytesOf buffer).bind hrest
  | false => exact (Quiet.pure bytes).bind hrest

theorem quiet_forEachCalls (o : ObjectId) : (forEachCalls o).Quiet := by
  have hcollector : newCollector.Quiet :=
    .bind (.bind .machine fun _ => Act.Quiet.bind .modifyMachine fun _ => .pure _) fun _ =>
      Act.Quiet.bind .newObject fun _ => .pure _
  refine (Quiet.ofGuest hcollector).bind fun made => (quiet_callMethod o "forEach" _).bind fun _ => .ofGuest ?_
  exact .bind .machine fun m => (Act.Quiet.forIn fun v => .hold v).bind fun _ =>
    Act.Quiet.bind .modifyMachine fun _ => .pure _

section

variable {convert : Value → Bridge Native} (hconvert : ∀ v, (convert v).Quiet) (o : ObjectId)
include hconvert

theorem quiet_takenFor (k : Kind) : (takenFor convert o k).Quiet := by
  cases k with
  | array =>
    refine Quiet.map ((quiet_countOf o "length").bind fun n => .mapM fun i => ?_)
    exact (Quiet.check _).bind fun v => .holding (hconvert v)
  | buffer => exact .map ((quiet_countOf o "byteLength").bind fun n => (quiet_bytesOf (.object o)).bind fun _ => .pure _)
  | typed t => exact .map (quiet_typedItems t o)
  | map =>
    refine Quiet.map ((quiet_countOf o "size").bind fun _ => .holding ((quiet_forEachCalls o).bind fun calls => ?_))
    refine .foldlM fun entries args => ?_
    rcases args with _ | ⟨v, _ | ⟨k, args⟩⟩
    · exact .pure entries
    · exact .pure entries
    · exact (quiet_coerceText k).bind fun key => .map (hconvert v)
  | set =>
    refine Quiet.map ((quiet_countOf o "size").bind fun _ => .holding ((quiet_forEachCalls o).bind fun calls => ?_))
    refine .map (.mapM fun args => ?_)
    rcases args with _ | ⟨v, args⟩
    · exact .pure none
    · exact .map (hconvert v)
  | date =>
    refine Quiet.map ((quiet_callMethod o "getTime" []).bind fun v => (quiet_asDouble v).bind fun d => ?_)
    cases !d.isFinite with
    | true =>
      simp only [if_true]
      refine (Quiet.throw _).bind fun _ => ?_
      cases Instant.ofMilliseconds? (d.clamp (-(2 ^ 63)) (2 ^ 63 - 1)) with
      | some i => exact .pure i
      | none => exact .throw _
    | false =>
      simp only [Bool.false_eq_true, if_false]
      cases Instant.ofMilliseconds? (d.clamp (-(2 ^ 63)) (2 ^ 63 - 1)) with
      | some i => exact .pure i
      | none => exact .throw _
  | unknown => exact .pure Native.unmapped

theorem quiet_nativeOfObject : (nativeOfObject convert o).Quiet := by
  rw [nativeOfObject_eq]
  exact (quiet_kindOf o).bind (quiet_takenFor hconvert o)

end

theorem quiet_toNative (v : Value) : (toNative v).Quiet := by
  have hdown (n : Nat) : (downTheStack n).Quiet := by
    induction n with
    | zero => exact .stop .exhausted
    | succ n ih => exact .deeper ih
  have hwithin (n : Nat) (v : Value) : (toNativeWithin n v).Quiet := by
    induction n generalizing v with
    | zero =>
      rw [toNativeWithin]
      generalize stackLimit = n
      exact .ofGuest (hdown n)
    | succ n ih =>
      cases v with
      | undefined | null | bool | number | symbol => exact .pure _
      | bigint n =>
        rw [toNativeWithin, nativeOf_bigint]
        exact .pure _
      | text t => exact .map (.ofExcept _)
      | object o => exact quiet_nativeOfObject (fun v => .deeper (ih v)) o
  unfold toNative
  exact Quiet.holding (hwithin _ v)

theorem quiet_constructKind (k : Kind) (args : List Value) : (constructKind k args).Quiet := by
  refine quiet_requireLive.bind fun _ => ?_
  cases Intrinsic.ofKind? k with
  | some c =>
    refine (Quiet.check _).bind fun v => ?_
    cases v with
    | object o => exact .pure o
    | _ => exact .throw _
  | none => exact .throw _

theorem quiet_expose (f : HostFn) : (expose f).Quiet := by
  refine Quiet.bind (.ofGuest .machine) fun m => (Quiet.ask (.register f)).bind fun r => ?_
  refine Quiet.bind (.ofExcept r) fun h => Quiet.bind (.ofGuest ?_) fun _ => .pure _
  exact Act.Quiet.bind .putProperty fun _ => .hold _

mutual

theorem quiet_ofNative (t : Native) : (ofNative t).Quiet := by
  cases t with
  | null | bool | int | float => exact .pure _
  | bigint n => exact quiet_requireLive.bind fun _ => .check _
  | string s => exact .check _
  | array items => exact (Quiet.check _).bind fun o => Quiet.bind (.holding (quiet_fillArray o 0 items)) fun _ => .pure _
  | bytes data => exact .map (.check _)
  | typed t xs => exact .map ((Quiet.check _).bind fun _ => quiet_constructKind _ _)
  | map entries =>
    exact (quiet_constructKind _ _).bind fun o => Quiet.bind (.holding (quiet_fillMap o entries)) fun _ => .pure _
  | set items =>
    exact (quiet_constructKind _ _).bind fun o => Quiet.bind (.holding (quiet_fillSet o items)) fun _ => .pure _
  | date i => exact .map (quiet_constructKind _ _)
  | function f => exact .map (quiet_expose f)
  | unmapped =>
    refine (Quiet.ask .unmapped).bind fun policy => ?_
    cases policy with
    | null => exact (Quiet.ask _).bind fun _ => .pure _
    | error => exact .throw _

theorem quiet_fillArray (o : ObjectId) (i : Nat) (xs : List Native) : (fillArray o i xs).Quiet := by
  cases xs with
  | nil => exact .pure ()
  | cons x xs => exact (quiet_ofNative x).bind fun _ => (Quiet.check _).bind fun _ => quiet_fillArray o (i + 1) xs

theorem quiet_fillMap (o : ObjectId) (entries : List (String × Native)) : (fillMap o entries).Quiet := by
  cases entries with
  | nil => exact .pure ()
  | cons entry rest =>
    obtain ⟨k, x⟩ := entry
    exact (quiet_ofNative x).bind fun _ => (quiet_callMethod o "set" _).bind fun _ => quiet_fillMap o rest

theorem quiet_fillSet (o : ObjectId) (xs : List Native) : (fillSet o xs).Quiet := by
  cases xs with
  | nil => exact .pure ()
  | cons x xs => exact (quiet_ofNative x).bind fun _ => (quiet_callMethod o "add" _).bind fun _ => quiet_fillSet o xs

end

end Bridge

end Embedding.Guest
