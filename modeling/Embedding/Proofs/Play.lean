import Embedding.Proofs.World

namespace Embedding

/-- What a host does without running guest code. -/
inductive Operation where
  | newRuntime (config : Config)
  | dropRuntime (r : RuntimeId)
  | freeRuntime (r : RuntimeId)
  | collect (r : RuntimeId)
  | newContext (r : RuntimeId)
  | dropContext (c : ContextId)
  | freeContext (c : ContextId)
  | dropPending (c : ContextId)
  | keepPending (c : ContextId) (v : ValueRef)
  | unregister (c : ContextId) (h : Handle)
  | copy (v : ValueRef)
  | drop (v : ValueRef)
  | exposed (name : String) (h : Handle)

variable [Guest.Collector]

namespace Operation

/-- What becomes of a world. An operation that is refused leaves it as it is. -/
def apply (w : World) : Operation → World
  | newRuntime config => (w.newRuntime config).2
  | dropRuntime r => w.dropRuntime r
  | freeRuntime r => w.freeRuntime r
  | collect r => if (w.runtimeObstacle? r).isSome then w else w.collect r
  | newContext r => if (w.newContextObstacle? r).isSome then w else (w.addContext r).2
  | dropContext c => w.dropContext c
  | freeContext c => w.freeContext c
  | dropPending c => w.dropPending c
  | keepPending c v => w.modifyContext c fun s => { s with pending := some v }
  | unregister c h => (w.unregister c h).2
  | copy v => (w.copy v).2
  | drop v => w.drop v
  | exposed name h => w.report (.exposed name h.index)

def runtime? : Operation → Option RuntimeId
  | dropRuntime r | freeRuntime r | collect r | newContext r => some r
  | _ => none

/-- The context that the host must not have let go of. -/
def context? : Operation → Option ContextId
  | dropContext c | freeContext c | dropPending c | keepPending c _ | unregister c _ => some c
  | _ => none

/-- Whether the host can do it, with the contexts that it has. -/
def allowed (op : Operation) (w : World) (held : List ContextId) : Bool :=
  op.runtime?.all (fun r => r.index < w.runtimes.size) && op.context?.all (fun c => c ∈ held)

/-- The contexts that the host has afterwards. -/
def held (w : World) (held : List ContextId) : Operation → List ContextId
  | newContext r => if (w.newContextObstacle? r).isSome then held else (w.addContext r).1 :: held
  | dropContext c => held.filter (· ≠ c)
  | _ => held

end Operation

/-- Work inside a context: it runs, or waits for a host function, or for the host to drop functions. -/
inductive Activity : Type 1 where
  | running (c : ContextId) {α : Type} (run : Guest.Run α)
  | waiting (c : ContextId) {α : Type} (resume : Except String Native → Guest.Run α)
  | dropping (c : ContextId) {α : Type} (rest : Guest.Run α)

def Activity.context : Activity → ContextId
  | running c _ | waiting c _ | dropping c _ => c

structure Position : Type 1 where
  world : World := {}
  held : List ContextId := []
  work : List Activity := []

/-- The position after an operation of the host. -/
def Position.operate (p : Position) (op : Operation) : Position :=
  ⟨op.apply p.world, op.held p.world p.held, p.work⟩

def Position.HostMoves (p : Position) : Prop :=
  match p.work with
  | .running .. :: _ => False
  | _ => True

inductive Move where
  | operate (op : Operation)
  | enter (c : ContextId)
  | answer (c : ContextId) (q : Guest.Query) (reply : q.Reply)
  | call (c : ContextId) (call : PendingCall) (args : List Native)
  | reply (c : ContextId) (reply : Except String Native)
  | freed (c : ContextId)
  | dropped (c : ContextId)
  | leave (c : ContextId)

/-- The machine that a run ends with, if it has ended. -/
def Guest.Run.final? : Guest.Run α → Option Guest.Machine
  | .done _ m | .threw _ m | .stopped _ m => some m
  | .ask .. | .call .. => none

inductive Step : Position → Move → Position → Prop where
  | operate {p : Position} (op : Operation) (hturn : p.HostMoves) (hallowed : op.allowed p.world p.held = true) :
      Step p (.operate op) (p.operate op)
  | enter {p : Position} {c : ContextId} {α : Type} (x : Guest.Bridge α) (hturn : p.HostMoves)
      (hc : c.index < p.world.contexts.size) (hfree : p.world.contextObstacle? c = none) :
      Step p (.enter c) ⟨p.world.enter c, p.held,
        .running c (x.caught.run Guest.Engine.standard (p.world.machineFor c)) :: p.work⟩
  | answer {w : World} {held : List ContextId} {work : List Activity} {c : ContextId} {α : Type}
      {q : Guest.Query} {m : Guest.Machine} {resume : q.Reply → Guest.Run α} :
      Step ⟨w, held, .running c (.ask q m resume) :: work⟩ (.answer c q ((w.setMachine c m).answer c q).1)
        ⟨((w.setMachine c m).answer c q).2, held,
          .running c (resume ((w.setMachine c m).answer c q).1) :: work⟩
  /-- The host drops what goes with the functions that the engine has freed by now. -/
  | free {w : World} {held : List ContextId} {work : List Activity} {c : ContextId} {α : Type}
      {q : Guest.Query} {m : Guest.Machine} {resume : q.Reply → Guest.Run α} :
      Step ⟨w, held, .running c (.ask q m resume) :: work⟩ (.freed c)
        ⟨(w.setMachine c m).reap c, held, .dropping c (.ask q m resume) :: work⟩
  /-- The host drops a function that is refused, where the registry was to keep it. -/
  | refuse {w : World} {held : List ContextId} {work : List Activity} {c : ContextId} {α : Type}
      {q : Guest.Query} {m : Guest.Machine} {resume : q.Reply → Guest.Run α}
      (hrefused : (q.refused? ((w.setMachine c m).answer c q).1).isSome) :
      Step ⟨w, held, .running c (.ask q m resume) :: work⟩ (.answer c q ((w.setMachine c m).answer c q).1)
        ⟨((w.setMachine c m).answer c q).2.lendRegistry c, held,
          .dropping c (resume ((w.setMachine c m).answer c q).1) :: work⟩
  | dropped {w : World} {held : List ContextId} {work : List Activity} {c : ContextId} {α : Type} {rest : Guest.Run α} :
      Step ⟨w, held, .dropping c rest :: work⟩ (.dropped c) ⟨w.takeBackRegistry c, held, .running c rest :: work⟩
  | call {w : World} {held : List ContextId} {work : List Activity} {c : ContextId} {α : Type} {call : PendingCall}
      {args : List Native} {m : Guest.Machine} {resume : Except String Native → Guest.Run α} :
      Step ⟨w, held, .running c (.call call args m resume) :: work⟩ (.call c call args)
        ⟨(w.setMachine c m).makeCall c call, held, .waiting c resume :: work⟩
  | reply {w : World} {held : List ContextId} {work : List Activity} {c : ContextId} {α : Type}
      {resume : Except String Native → Guest.Run α} (r : Except String Native) :
      Step ⟨w, held, .waiting c resume :: work⟩ (.reply c r) ⟨w, held, .running c (resume r) :: work⟩
  | leave {w : World} {held : List ContextId} {work : List Activity} {c : ContextId} {α : Type}
      {run : Guest.Run α} {m : Guest.Machine} (hend : run.final? = some m) :
      Step ⟨w, held, .running c run :: work⟩ (.leave c) ⟨(w.setMachine c m).leave c, held, work⟩

/-- The moves that lead from one position to another, each with the position in which it is made. -/
inductive Play : Position → List (Position × Move) → Position → Prop where
  | nil {p : Position} : Play p [] p
  | cons {p p' q : Position} {m : Move} {ms : List (Position × Move)} (hstep : Step p m p')
      (hplay : Play p' ms q) : Play p ((p, m) :: ms) q

namespace Play

variable {p q r : Position} {ms ns : List (Position × Move)}

theorem one {m : Move} (h : Step p m q) : Play p [(p, m)] q := cons h nil

theorem append (h : Play p ms q) (h' : Play q ns r) : Play p (ms ++ ns) r := by
  induction h with
  | nil => exact h'
  | cons hstep _ ih => exact cons hstep (ih h')

theorem keeps {P : Position → Prop} (hP : ∀ {p q : Position} {m : Move}, Step p m q → P p → P q)
    (h : Play p ms q) (hp : P p) : P q := by
  induction h with
  | nil => exact hp
  | cons hstep _ ih => exact ih (hP hstep hp)

section

variable {P : List (Position × Move) → Position → Prop}
  (hstep : ∀ {ms p m q}, Play {} ms p → Step p m q → P ms p → P (ms ++ [(p, m)]) q)
include hstep

theorem induction_from (hplay : Play p ms q) {before : List (Position × Move)} (hbefore : Play {} before p)
    (hp : P before p) : P (before ++ ms) q := by
  induction hplay generalizing before with
  | nil => rwa [List.append_nil]
  | @cons p p' q m ms hmove _ ih =>
    have hnext := ih (hbefore.append (.one hmove)) (hstep hbefore hmove hp)
    rwa [List.append_assoc] at hnext

theorem induction (hplay : Play {} ms q) (hstart : P [] {}) : P ms q := induction_from hstep hplay .nil hstart

end

end Play

namespace Position

/-- The moves of a host that only operates. -/
def moves (p : Position) : List Operation → List (Position × Move)
  | [] => []
  | op :: ops => (p, .operate op) :: (p.operate op).moves ops

def allows (p : Position) : List Operation → Bool
  | [] => true
  | op :: ops => op.allowed p.world p.held && (p.operate op).allows ops

end Position

theorem Play.operates (ops : List Operation) {p : Position} (hturn : p.HostMoves) (h : p.allows ops = true) :
    Play p (p.moves ops) (ops.foldl Position.operate p) := by
  induction ops generalizing p with
  | nil => exact nil
  | cons op ops ih =>
    obtain ⟨hop, hops⟩ := (Bool.and_eq_true _ _).mp h
    exact cons (.operate op hturn hop) (ih hturn hops)

/-- The positions that a host can get to. -/
def Position.Reachable (p : Position) : Prop := ∃ ms, Play {} ms p

end Embedding
