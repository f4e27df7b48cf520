import Mathlib.Logic.Function.Basic
import AgentOE.Coroutine

/-! `scoped_context` over structlog's context variables, in programs of nested blocks. -/
namespace AgentOE.LogContext
open Coroutine

/-- The values bound in the running task. -/
abbrev Context (V : Type) := String → Option V

/-- The arguments of a block. A value may be `None`. -/
abbrev Kwargs (V : Type) := List (String × Option V)

/-- What is used of structlog. -/
structure Structlog (V : Type) where
  bindContextvars : List (String × V) → Context V → Context V
  unbindContextvars : List String → Context V → Context V

/-- Binding sets the given keys and unbinding removes them; the other keys stay. -/
structure Structlog.Lawful (lib : Structlog V) : Prop where
  bound : ∀ values ctx, ∀ k ∈ values.map Prod.fst, ∃ v, (k, v) ∈ values ∧
    lib.bindContextvars values ctx k = some v
  others : ∀ values ctx, ∀ k ∉ values.map Prod.fst, lib.bindContextvars values ctx k = ctx k
  unbound : ∀ keys ctx, ∀ k ∈ keys, lib.unbindContextvars keys ctx k = none
  kept : ∀ keys ctx, ∀ k ∉ keys, lib.unbindContextvars keys ctx k = ctx k

variable {V E : Type} (lib : Structlog V)

/-- The arguments that are not `None`. -/
def given (kwargs : Kwargs V) : List (String × V) := kwargs.filterMap fun kw => kw.2.map (kw.1, ·)

def keysOf (kwargs : Kwargs V) : List String := (given kwargs).map (·.1)

def scopedContext (kwargs : Kwargs V) (body : Coroutine (Context V) E Unit) :
    Coroutine (Context V) E Unit :=
  modify (lib.bindContextvars (given kwargs)) >>= fun _ =>
    ensure body (if keysOf kwargs = [] then pure ()
      else modify (lib.unbindContextvars (keysOf kwargs)))

/-- What runs inside and between the blocks. -/
inductive Program (V E : Type) where
  | pass
  | raise (e : E)
  | andThen (first rest : Program V E)
  /-- `try: body except caught: handler`. -/
  | attempt (caught : E → Bool) (body handler : Program V E)
  | scope (kwargs : Kwargs V) (body : Program V E)

namespace Program

def run : Program V E → Coroutine (Context V) E Unit
  | pass => pure ()
  | raise e => await (.error e)
  | andThen first rest => first.run >>= fun _ => rest.run
  | attempt caught body handler => catching caught body.run handler.run
  | scope kwargs body => scopedContext lib kwargs body.run

/-- How the program ends. No context decides it. -/
def outcome : Program V E → Except E Unit
  | pass => .ok ()
  | raise e => .error e
  | andThen first rest => match first.outcome with
    | .ok _ => rest.outcome
    | .error e => .error e
  | attempt caught body handler => match body.outcome with
    | .ok _ => .ok ()
    | .error e => if caught e then handler.outcome else .error e
  | scope _ body => body.outcome

end Program

/-- The contexts around a block that was run. -/
structure Block (V : Type) where
  before : Context V
  after : Context V

def Block.Restores (block : Block V) : Prop := block.after = block.before

namespace Program

/-- The blocks in the order in which they end. -/
def blocks : Program V E → Context V → List (Block V)
  | pass, _ => []
  | raise _, _ => []
  | andThen first rest, ctx => first.blocks ctx ++ match first.outcome with
    | .ok _ => rest.blocks (first.run lib ctx).2
    | .error _ => []
  | attempt caught body handler, ctx => body.blocks ctx ++ match body.outcome with
    | .ok _ => []
    | .error e => if caught e then handler.blocks (body.run lib ctx).2 else []
  | scope kwargs body, ctx =>
    body.blocks (lib.bindContextvars (given kwargs) ctx) ++
      [⟨ctx, ((scope kwargs body).run lib ctx).2⟩]

/-- No block that is run binds a key which is bound around it: by the context at the
start or by a block outside it. -/
def Fresh : Program V E → (String → Prop) → Prop
  | pass, _ => True
  | raise _, _ => True
  | andThen first rest, bound => first.Fresh bound ∧ match first.outcome with
    | .ok _ => rest.Fresh bound
    | .error _ => True
  | attempt caught body handler, bound => body.Fresh bound ∧ match body.outcome with
    | .ok _ => True
    | .error e => caught e = true → handler.Fresh bound
  | scope kwargs body, bound => (∀ k ∈ keysOf kwargs, ¬bound k) ∧
      body.Fresh fun k => bound k ∨ k ∈ keysOf kwargs

end Program

variable {lib} {ctx : Context V} {k : String}

theorem bindContextvars_isSome (lawful : lib.Lawful) (values : List (String × V)) (ctx : Context V)
    (k : String) :
    (lib.bindContextvars values ctx k).isSome ↔ (ctx k).isSome ∨ k ∈ values.map Prod.fst := by
  by_cases given : k ∈ values.map Prod.fst
  · obtain ⟨v, -, bound⟩ := lawful.bound values ctx k given
    simp [bound, given]
  · simp [lawful.others values ctx k given, given]

theorem unbind_bind (lawful : lib.Lawful) (kwargs : Kwargs V) (ctx : Context V) :
    lib.unbindContextvars (keysOf kwargs) (lib.bindContextvars (given kwargs) ctx) =
      lib.unbindContextvars (keysOf kwargs) ctx := by
  funext k
  by_cases inside : k ∈ keysOf kwargs
  · rw [lawful.unbound _ _ k inside, lawful.unbound _ _ k inside]
  · rw [lawful.kept _ _ k inside, lawful.kept _ _ k inside]
    exact lawful.others _ ctx k inside

theorem unbind_eq_self_iff (lawful : lib.Lawful) {keys : List String} :
    lib.unbindContextvars keys ctx = ctx ↔ ∀ k ∈ keys, ¬(ctx k).isSome := by
  constructor
  · intro same k mem
    rw [← same, lawful.unbound keys ctx k mem]
    simp
  · intro unbound
    funext k
    by_cases mem : k ∈ keys
    · rw [lawful.unbound keys ctx k mem, Option.not_isSome_iff_eq_none.mp (unbound k mem)]
    · exact lawful.kept keys ctx k mem

/-- Whatever the body does, its block ends with the keys unbound. -/
theorem scopedContext_apply (lawful : lib.Lawful) (kwargs : Kwargs V)
    (body : Coroutine (Context V) E Unit) (ctx : Context V) :
    scopedContext lib kwargs body ctx = ((body (lib.bindContextvars (given kwargs) ctx)).1,
      lib.unbindContextvars (keysOf kwargs) (body (lib.bindContextvars (given kwargs) ctx)).2) := by
  rw [scopedContext, modify_bind_apply, ensure]
  by_cases none : keysOf kwargs = []
  · have same (ctx : Context V) : lib.unbindContextvars [] ctx = ctx :=
      (unbind_eq_self_iff lawful).mpr (by simp)
    rw [if_pos none, none, pure_apply, same]
  · rw [if_neg none, modify_apply]

namespace Program

theorem run_outcome (lawful : lib.Lawful) (p : Program V E) (ctx : Context V) :
    (p.run lib ctx).1 = p.outcome := by
  induction p generalizing ctx with
  | pass => rfl
  | raise e => rfl
  | andThen first rest ihFirst ihRest =>
    rcases ended : first.run lib ctx with ⟨result, t⟩
    have same : result = first.outcome := by simpa only [ended] using ihFirst ctx
    subst same
    cases done : first.outcome with
    | ok u =>
      rw [done] at ended
      simpa only [run, bind_ok _ ended, outcome, done] using ihRest t
    | error e =>
      rw [done] at ended
      simp only [run, bind_error _ ended, outcome, done]
  | attempt caught body handler ihBody ihHandler =>
    rcases ended : body.run lib ctx with ⟨result, t⟩
    have same : result = body.outcome := by simpa only [ended] using ihBody ctx
    subst same
    simp only [run, catching, ended, outcome]
    cases body.outcome with
    | ok u => rfl
    | error e =>
      cases stops : caught e with
      | true => simpa only [stops, if_true] using ihHandler t
      | false => simp only [stops, if_false, Bool.false_eq_true]
  | scope kwargs body ih => simpa only [run, scopedContext_apply lawful, outcome] using ih _

/-- A program whose blocks restore their contexts restores its own. -/
theorem run_of_restores (lawful : lib.Lawful) {p : Program V E}
    (restores : ∀ block ∈ p.blocks lib ctx, block.Restores) : (p.run lib ctx).2 = ctx := by
  induction p generalizing ctx with
  | pass => rfl
  | raise e => rfl
  | andThen first rest ihFirst ihRest =>
    simp only [blocks, List.forall_mem_append] at restores
    have kept := ihFirst restores.1
    have ended := first.run_outcome lawful ctx
    rcases went : first.run lib ctx with ⟨result, t⟩
    rw [went] at kept ended restores
    subst kept ended
    cases done : first.outcome with
    | ok u =>
      simp only [done] at went restores
      simpa only [run, bind_ok _ went] using ihRest restores.2
    | error e =>
      simp only [done] at went
      simp only [run, bind_error _ went]
  | attempt caught body handler ihBody ihHandler =>
    simp only [blocks, List.forall_mem_append] at restores
    have kept := ihBody restores.1
    have ended := body.run_outcome lawful ctx
    rcases went : body.run lib ctx with ⟨result, t⟩
    rw [went] at kept ended restores
    subst kept ended
    simp only [run, catching, went]
    cases done : body.outcome with
    | ok u => rfl
    | error e =>
      simp only [done] at restores
      cases stops : caught e with
      | true =>
        simp only [stops, if_true] at restores ⊢
        exact ihHandler restores.2
      | false => simp only [stops, if_false, Bool.false_eq_true]
  | scope kwargs body ih =>
    simp only [blocks, List.forall_mem_append, List.forall_mem_singleton] at restores
    exact restores.2

/-- A block restores its context just when its keys were not bound, if its body does. -/
theorem scope_restores_iff (lawful : lib.Lawful) {kwargs : Kwargs V} {body : Program V E}
    (inner : (body.run lib (lib.bindContextvars (given kwargs) ctx)).2 =
      lib.bindContextvars (given kwargs) ctx) :
    ((scope kwargs body).run lib ctx).2 = ctx ↔ ∀ k ∈ keysOf kwargs, ¬(ctx k).isSome := by
  rw [run, scopedContext_apply lawful, inner, unbind_bind lawful, unbind_eq_self_iff lawful]

/-- The context after each block is the one before it, if and only if no block binds a
key again that is bound around it. -/
theorem scoped_context_iff (lawful : lib.Lawful) (ctx : Context V) (p : Program V E) :
    (∀ block ∈ p.blocks lib ctx, block.Restores) ↔ p.Fresh fun k => (ctx k).isSome := by
  induction p generalizing ctx with
  | pass => simp [blocks, Fresh]
  | raise e => simp [blocks, Fresh]
  | andThen first rest ihFirst ihRest =>
    simp only [blocks, List.forall_mem_append, Fresh, ← ihFirst]
    refine and_congr_right fun restores => ?_
    rw [run_of_restores lawful restores]
    cases first.outcome with
    | ok u => exact ihRest ctx
    | error e => simp
  | attempt caught body handler ihBody ihHandler =>
    simp only [blocks, List.forall_mem_append, Fresh, ← ihBody]
    refine and_congr_right fun restores => ?_
    rw [run_of_restores lawful restores]
    cases body.outcome with
    | ok u => simp
    | error e =>
      by_cases stops : caught e = true
      · simpa only [stops, if_true, true_implies] using ihHandler ctx
      · simp [stops]
  | scope kwargs body ih =>
    have around : (fun k => ((lib.bindContextvars (given kwargs) ctx) k).isSome = true) =
        fun k => (ctx k).isSome = true ∨ k ∈ keysOf kwargs := by
      funext k
      exact propext (bindContextvars_isSome lawful _ ctx k)
    simp only [blocks, List.forall_mem_append, List.forall_mem_singleton, Fresh, ← around, ← ih]
    rw [and_comm]
    refine and_congr_left fun restores => ?_
    exact scope_restores_iff lawful (run_of_restores lawful restores)

end Program

/-- Keys are bound one after the other. -/
def structlog : Structlog V where
  bindContextvars values ctx :=
    values.foldl (fun ctx kw => Function.update ctx kw.1 (some kw.2)) ctx
  unbindContextvars keys ctx k := if k ∈ keys then none else ctx k

theorem structlog_others (values : List (String × V)) (ctx : Context V)
    (other : k ∉ values.map Prod.fst) :
    structlog.bindContextvars values ctx k = ctx k := by
  induction values generalizing ctx with
  | nil => rfl
  | cons kw values ih =>
    obtain ⟨differs, rest⟩ := not_or.mp (List.mem_cons.not.mp other)
    exact (ih _ rest).trans (Function.update_of_ne differs _ _)

theorem structlog_bound (values : List (String × V)) (ctx : Context V)
    (mem : k ∈ values.map Prod.fst) :
    ∃ v, (k, v) ∈ values ∧ structlog.bindContextvars values ctx k = some v := by
  induction values generalizing ctx with
  | nil => cases mem
  | cons kw values ih =>
    by_cases later : k ∈ values.map Prod.fst
    · obtain ⟨v, inside, bound⟩ := ih (Function.update ctx kw.1 (some kw.2)) later
      exact ⟨v, List.mem_cons_of_mem _ inside, bound⟩
    · obtain rfl : k = kw.1 := (List.mem_cons.mp mem).resolve_right later
      refine ⟨kw.2, List.mem_cons_self, ?_⟩
      exact (structlog_others values _ later).trans (Function.update_self _ _ _)

theorem structlog_lawful : (structlog : Structlog V).Lawful where
  bound values ctx _ mem := structlog_bound values ctx mem
  others values ctx _ other := structlog_others values ctx other
  unbound _ _ _ mem := if_pos mem
  kept _ _ _ other := if_neg other

/-- A call whose first turn fails inside of a block of its own and whose second turn binds
the same key again. -/
def turns : Program String Unit :=
  .scope [("session_id", some "call-1"), ("tenant_id", some "t1")]
    (.andThen
      (.attempt (fun _ => true) (.scope [("turn_id", some "1")] (.raise ())) .pass)
      (.scope [("turn_id", some "2"), ("tenant_id", none)] .pass))

theorem turns_restored : (turns.blocks structlog fun _ => none).length = 3 ∧
    ∀ block ∈ turns.blocks structlog fun _ => none, block.Restores := by
  refine ⟨rfl, (Program.scoped_context_iff structlog_lawful _ turns).mpr ?_⟩
  simp [turns, Program.Fresh, Program.outcome, keysOf, given]

/-- The middleware has bound a tenant, and a block binds it again. -/
theorem rebound_tenant_lost : ¬∀ block ∈ (Program.scope [("tenant_id", some "t1")]
    (.pass : Program String Unit)).blocks structlog
      (structlog.bindContextvars [("tenant_id", "t1")] fun _ => none),
    block.Restores := by
  intro restores
  have same := congrFun (restores _ (List.mem_singleton.mpr rfl)) "tenant_id"
  exact absurd same (by decide)

end AgentOE.LogContext
