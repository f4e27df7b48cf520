import AgentOE.Session.Cache
import AgentOE.Domain.PortalAuth

/-! The turns of a session as `GET /sessions/{session_id}/turns` gives them out, page by page. -/
namespace AgentOE.Session.TurnPages
open Collection
open Cache (turnsOf)
open PortalAuth (TenantContext platformAdminRoles)

/-- An element of `turns`: a message of `get_recent_history`, or the document of a turn. -/
inductive Item where
  | message (message : Message)
  | document (turn : TurnDoc)
  deriving DecidableEq, Repr

structure Page where
  sessionId : String
  turns : List Item
  count : Nat
  limit : Nat
  offset : Nat
  deriving DecidableEq, Repr

inductive Refusal where
  | unprocessable
  | sessionNotFound (sessionId : String)
  | authorization (message : String)
  deriving DecidableEq, Repr

/-- What `$sort` by `timestamp` makes of the turns, for the page at each offset. No turn has
that field, so the server may choose the order, and choose anew for each query. -/
structure Aggregation where
  sort : Nat → List TurnDoc → List TurnDoc
  perm : ∀ offset turns, (sort offset turns).Perm turns

variable (mongo : Aggregation) (σ : Store) (tenant : TenantContext) (s : String)

def assertTenantOwnership (owner : String) : Except Refusal Unit :=
  if owner = tenant.tenantId then .ok ()
  else if tenant.roles.any platformAdminRoles.contains then .ok ()
  else .error (.authorization "Access denied to session")

def getTurnsWithOffset (limit offset : Nat) : List TurnDoc :=
  ((mongo.sort offset (turnsOf s σ)).drop offset).take limit

def getSessionTurns (limit offset : Nat) : Except Refusal Page :=
  if 1 ≤ limit ∧ limit ≤ 200 then
    match getById σ s with
    | .error _ => .error (.sessionNotFound s)
    | .ok session => do
      assertTenantOwnership tenant session.tenantId
      let turns := if offset = 0 then (getRecentHistory σ s limit).map Item.message
        else (getTurnsWithOffset mongo σ s limit offset).map Item.document
      return ⟨s, turns, turns.length, limit, offset⟩
  else .error .unprocessable

/-- What a client puts together that asks for the pages from `offset` on until one is empty;
`none` where the fuel does not last. -/
def readPages (limit : Nat) : Nat → Nat → Except Refusal (Option (List Item))
  | 0, _ => .ok none
  | fuel + 1, offset => do
    let page ← getSessionTurns mongo σ tenant s limit offset
    if page.turns = [] then return some []
    let rest ← readPages limit fuel (offset + limit)
    return rest.map (page.turns ++ ·)

/-! Every turn once, in order. -/

inductive Shape where
  | messages
  | document

def Shape.render : Shape → TurnDoc → List Item
  | .messages, turn => (Cache.messages turn).map .message
  | .document, turn => [.document turn]

/-- The items are those of all turns by their numbers, in one shape. -/
def Covers (turns : List TurnDoc) (items : List Item) : Prop :=
  ∃ (shape : Shape) (ordered : List TurnDoc), ordered.Perm turns ∧
    ordered.Pairwise (fun a b => a.turnIndex ≤ b.turnIndex) ∧ items = ordered.flatMap shape.render

def itemsAt (limit offset : Nat) : List Item :=
  if offset = 0 then (getRecentHistory σ s limit).map Item.message
  else (getTurnsWithOffset mongo σ s limit offset).map Item.document

variable {mongo σ tenant s} {doc : SessionDoc} {limit : Nat}

theorem getSessionTurns_ok (found : findOne (bySession s) σ.sessions = some doc)
    (owned : assertTenantOwnership tenant doc.tenantId = .ok ()) (lower : 1 ≤ limit)
    (upper : limit ≤ 200) (offset : Nat) :
    ∃ page, getSessionTurns mongo σ tenant s limit offset = .ok page ∧
      page.turns = itemsAt mongo σ s limit offset := by
  have byId : getById σ s = .ok doc := by rw [getById, found]
  rw [getSessionTurns, if_pos ⟨lower, upper⟩, byId]
  simp only [owned]
  exact ⟨_, rfl, rfl⟩

theorem readPages_succ (found : findOne (bySession s) σ.sessions = some doc)
    (owned : assertTenantOwnership tenant doc.tenantId = .ok ()) (lower : 1 ≤ limit)
    (upper : limit ≤ 200) (fuel offset : Nat) : readPages mongo σ tenant s limit (fuel + 1) offset =
      if itemsAt mongo σ s limit offset = [] then .ok (some []) else
        (readPages mongo σ tenant s limit fuel (offset + limit)).map
          (Option.map (itemsAt mongo σ s limit offset ++ ·)) := by
  obtain ⟨page, read, turns⟩ : ∃ page, getSessionTurns mongo σ tenant s limit offset = .ok page ∧
    page.turns = itemsAt mongo σ s limit offset := getSessionTurns_ok found owned lower upper offset
  rw [readPages, read, ← turns]
  simp only [bind, Except.bind]
  by_cases empty : page.turns = []
  · rw [if_pos empty, if_pos empty]
    rfl
  · rw [if_neg empty, if_neg empty]
    cases readPages mongo σ tenant s limit fuel (offset + limit) with
    | error refusal => rfl
    | ok items => rfl

theorem itemsAt_later (offset : Nat) (later : 0 < offset) :
    itemsAt mongo σ s limit offset =
      (getTurnsWithOffset mongo σ s limit offset).map Item.document :=
  if_neg (Nat.ne_of_gt later)

theorem itemsAt_later_eq_nil (lower : 1 ≤ limit) (offset : Nat) (later : 0 < offset) :
    itemsAt mongo σ s limit offset = [] ↔ (turnsOf s σ).length ≤ offset := by
  have length := (mongo.perm offset (turnsOf s σ)).length_eq
  rw [itemsAt_later offset later, List.map_eq_nil_iff, getTurnsWithOffset, List.take_eq_nil_iff,
    List.drop_eq_nil_iff]
  omega

/-- The pages after the first one have documents only. -/
theorem readPages_later (found : findOne (bySession s) σ.sessions = some doc)
    (owned : assertTenantOwnership tenant doc.tenantId = .ok ()) (lower : 1 ≤ limit)
    (upper : limit ≤ 200) (fuel offset : Nat) (later : 0 < offset)
    (enough : (turnsOf s σ).length < offset + fuel + 1) :
    ∃ turns : List TurnDoc, readPages mongo σ tenant s limit (fuel + 1) offset =
      .ok (some (turns.map Item.document)) ∧ (turns = [] ↔ (turnsOf s σ).length ≤ offset) := by
  induction fuel generalizing offset with
  | zero =>
    have end_ : itemsAt mongo σ s limit offset = [] :=
      (itemsAt_later_eq_nil lower offset later).mpr (by omega)
    rw [readPages_succ found owned lower upper, if_pos end_]
    exact ⟨[], rfl, by simp; omega⟩
  | succ fuel ih =>
    rw [readPages_succ found owned lower upper]
    by_cases empty : itemsAt mongo σ s limit offset = []
    · rw [if_pos empty]
      exact ⟨[], rfl, by simpa using (itemsAt_later_eq_nil lower offset later).mp empty⟩
    · obtain ⟨turns, read, -⟩ := ih (offset + limit) (by omega) (by omega)
      have more := mt (itemsAt_later_eq_nil lower offset later).mpr empty
      rw [if_neg empty, read]
      refine ⟨getTurnsWithOffset mongo σ s limit offset ++ turns, ?_, ?_⟩
      · simp [Except.map, itemsAt_later offset later]
      · have some : getTurnsWithOffset mongo σ s limit offset ≠ [] := by
          rintro none
          exact empty (by rw [itemsAt_later offset later, none]; rfl)
        simp [some, more]

theorem recent_eq_nil (lower : 1 ≤ limit) : getRecentHistory σ s limit = [] ↔ turnsOf s σ = [] := by
  have length := ((turnsOf s σ).mergeSort_perm fun a b =>
    decide (b.turnIndex ≤ a.turnIndex)).length_eq
  have window : getRecentHistory σ s limit = ((((turnsOf s σ).mergeSort
      fun a b => decide (b.turnIndex ≤
        a.turnIndex)).take limit).reverse).flatMap Cache.messages := rfl
  rw [window, List.flatMap_eq_nil_iff]
  constructor
  · intro none
    rw [← List.length_eq_zero_iff, ← length, List.length_eq_zero_iff]
    by_contra some
    obtain ⟨turn, mem⟩ := List.exists_mem_of_ne_nil _ (show ((turnsOf s σ).mergeSort
      fun a b => decide (b.turnIndex ≤ a.turnIndex)).take limit ≠ [] by
        rw [Ne, List.take_eq_nil_iff]
        rintro (zero | empty)
        · omega
        · exact some empty)
    cases none turn (List.mem_reverse.mpr mem)
  · intro none
    simp [none]

/-- The whole history, on a page that holds it. -/
theorem recent_covers (fits : (turnsOf s σ).length ≤ limit) :
    Covers (turnsOf s σ) ((getRecentHistory σ s limit).map Item.message) := by
  have perm := (turnsOf s σ).mergeSort_perm fun a b => decide (b.turnIndex ≤ a.turnIndex)
  have sorted : ((turnsOf s σ).mergeSort fun a b => decide (b.turnIndex ≤ a.turnIndex)).Pairwise
      (fun a b => decide (b.turnIndex ≤ a.turnIndex) = true) := by
    apply List.pairwise_mergeSort
    · simp only [decide_eq_true_eq]
      omega
    · simp only [Bool.or_eq_true, decide_eq_true_eq]
      omega
  refine ⟨.messages, ((turnsOf s σ).mergeSort fun a b =>
    decide (b.turnIndex ≤ a.turnIndex)).reverse,
    (List.reverse_perm _).trans perm, ?_, ?_⟩
  · apply List.pairwise_reverse.mpr
    exact sorted.imp fun below => of_decide_eq_true below
  · have whole : ((turnsOf s σ).mergeSort fun a b =>
        decide (b.turnIndex ≤ a.turnIndex)).take limit =
        (turnsOf s σ).mergeSort fun a b => decide (b.turnIndex ≤ a.turnIndex) :=
      List.take_of_length_le (by rwa [perm.length_eq])
    change (((((turnsOf s σ).mergeSort fun a b => decide (b.turnIndex ≤ a.turnIndex)).take
      limit).reverse).flatMap Cache.messages).map Item.message = _
    rw [whole, List.map_flatMap]
    rfl

/-- Items of both kinds are in no one shape. -/
theorem not_covers_mixed {messages : List Message} {documents turns : List TurnDoc}
    (first : messages ≠ []) (later : documents ≠ []) :
    ¬Covers turns (messages.map Item.message ++ documents.map Item.document) := by
  obtain ⟨message, inMessages⟩ := List.exists_mem_of_ne_nil _ first
  obtain ⟨document, inDocuments⟩ := List.exists_mem_of_ne_nil _ later
  rintro ⟨shape, ordered, -, -, same⟩
  have memMessage : Item.message message ∈ ordered.flatMap shape.render := by
    rw [← same]
    exact List.mem_append_left _ (List.mem_map_of_mem inMessages)
  have memDocument : Item.document document ∈ ordered.flatMap shape.render := by
    rw [← same]
    exact List.mem_append_right _ (List.mem_map_of_mem inDocuments)
  cases shape with
  | messages =>
    obtain ⟨turn, -, inside⟩ := List.mem_flatMap.mp memDocument
    simp [Shape.render, Cache.messages] at inside
  | document =>
    obtain ⟨turn, -, inside⟩ := List.mem_flatMap.mp memMessage
    simp [Shape.render] at inside

/-- The pages give every turn once, in order and in one shape, just when the first one has
them all. -/
theorem pages_cover_iff (found : findOne (bySession s) σ.sessions = some doc)
    (owned : assertTenantOwnership tenant doc.tenantId = .ok ()) (lower : 1 ≤ limit)
    (upper : limit ≤ 200) (fuel : Nat) (enough : (turnsOf s σ).length + 1 < fuel) :
    ∃ items, readPages mongo σ tenant s limit fuel 0 = .ok (some items) ∧
      (Covers (turnsOf s σ) items ↔ (turnsOf s σ).length ≤ limit) := by
  obtain ⟨fuel, rfl⟩ : ∃ more, fuel = more + 2 := ⟨fuel - 2, by omega⟩
  have first : itemsAt mongo σ s limit 0 = (getRecentHistory σ s limit).map Item.message :=
    if_pos rfl
  rw [readPages_succ found owned lower upper, first]
  by_cases empty : turnsOf s σ = []
  · have none := (recent_eq_nil lower).mpr empty
    refine ⟨[], by rw [none]; rfl, ?_⟩
    have fits : (turnsOf s σ).length ≤ limit := by simp [empty]
    have covered := recent_covers fits
    rw [none] at covered
    exact iff_of_true covered fits
  · have present := mt (recent_eq_nil lower).mp empty
    obtain ⟨later, read, none_iff⟩ : ∃ turns : List TurnDoc,
        readPages mongo σ tenant s limit (fuel + 1) limit =
      .ok (some (turns.map Item.document)) ∧ (turns = [] ↔ (turnsOf s σ).length ≤ limit) :=
      readPages_later found owned lower upper fuel limit lower (by omega)
    rw [if_neg (by simpa using present), Nat.zero_add, read]
    refine ⟨(getRecentHistory σ s limit).map Item.message ++ later.map Item.document, rfl, ?_⟩
    by_cases fits : (turnsOf s σ).length ≤ limit
    · rw [none_iff.mpr fits, List.map_nil, List.append_nil]
      exact iff_of_true (recent_covers fits) fits
    · exact iff_of_false (not_covers_mixed present (mt none_iff.mp fits)) fits

/-- Turns in the order of their insertion, whatever the page. -/
def natural : Aggregation := ⟨fun _ turns => turns, fun _ turns => .refl turns⟩

def viewer : TenantContext := ⟨"t_acme", "op1", ["portal:viewer"], "agentoe-portal"⟩

def ask (turnIndex : Nat) : TurnDoc :=
  ⟨"call-1", turnIndex, "hello", s!"reply {turnIndex}", "G1", [], turnIndex⟩

def callWith (turns : Nat) : Store :=
  { (create .default .empty ⟨"call-1", "t_acme", "c1", .listening⟩ 1).2 with
    history := (List.range turns).map ask }

theorem short_call_covered : ∃ items, readPages natural (callWith 2) viewer "call-1" 2 4 0 =
    .ok (some items) ∧ Covers (turnsOf "call-1" (callWith 2)) items := by
  obtain ⟨items, read, covers⟩ : ∃ items, readPages natural (callWith 2) viewer "call-1" 2 4 0 =
      .ok (some items) ∧
      (Covers (turnsOf "call-1" (callWith 2)) items ↔ (turnsOf "call-1" (callWith 2)).length ≤ 2) :=
    pages_cover_iff rfl rfl (by decide) (by decide) 4 (by decide)
  exact ⟨items, read, covers.mpr (by decide)⟩

/-- The last two of three turns, and the last again. -/
def repeated : List Item :=
  [⟨.user, "hello"⟩, ⟨.assistant, "reply 1"⟩, ⟨.user, "hello"⟩,
    ⟨.assistant, "reply 2"⟩].map .message ++ [ask 2].map .document

theorem long_call_uncovered : readPages natural (callWith 3) viewer "call-1" 2 5 0 =
    .ok (some repeated) ∧ ¬Covers (turnsOf "call-1" (callWith 3)) repeated := by
  constructor
  · have recent : getRecentHistory (callWith 3) "call-1" 2 =
        [⟨.user, "hello"⟩, ⟨.assistant, "reply 1"⟩, ⟨.user, "hello"⟩, ⟨.assistant, "reply 2"⟩] :=
      (Cache.getRecentHistory_eq (by decide) (List.Perm.refl
        (turnsOf "call-1" (callWith 3))) 2).trans
        (by decide)
    have later : readPages natural (callWith 3) viewer "call-1" 2 4 2 =
        .ok (some ([ask 2].map .document)) := by
      decide +kernel
    rw [readPages_succ rfl rfl (by decide) (by decide), itemsAt, if_pos rfl, recent,
      Nat.zero_add, later]
    rfl
  · exact not_covers_mixed (by simp) (by simp)

end AgentOE.Session.TurnPages
