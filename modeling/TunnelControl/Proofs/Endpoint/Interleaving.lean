import TunnelControl.Proofs.Endpoint.Underway

namespace TunnelControl

structure Call where
  peer : SocketAddress
  elements : List Element
  creation : Creation
  result : Option (Except Error UInt32) := none

def Call.send {η : Type} (network : Network) (call : Call) (node : Node η) :
    Except Error UInt32 × Node η :=
  Action.perform (Action.send network call.peer (Operation.request call.elements)) node

theorem Call.sameIndices_send {η : Type} (network : Network) (call : Call) (node : Node η) :
    node.SameIndices (call.send network node).2 :=
  Action.sameIndices_send network call.peer (Operation.request call.elements) node

structure Interleaving (η : Type) where
  node : Node η
  calls : List Call := []

namespace Interleaving

open Node

variable {η : Type} {network : Network} {start state after : Interleaving η} {node : Node η}
  {front back : List Call} {call : Call} {operation : Operation} {id : SessionId}

def creations (state : Interleaving η) : List Creation := state.calls.map Call.creation

/-- What else may happen. Nobody uses or gives up the identifier of a call, or knows the session of
a call as long as it is not indexed, and only indexed sessions are removed. -/
inductive Admits (state : Interleaving η) : Operation → Prop where
  | openSession (peer : SocketAddress) (subscriber : Subscriber) :
      Admits state (.openSession peer subscriber)
  | describe (peer : SocketAddress) (request : Body) : Admits state (.describe peer request)
  | mint (draw : Nat → UInt32) : Admits state (.mint draw)
  | release {teid : UInt32} (free : ∀ creation ∈ state.creations, creation.teid ≠ some teid) :
      Admits state (.release teid)
  | register {teid : UInt32} {id : SessionId}
      (free : ∀ creation ∈ state.creations, creation.teid ≠ some teid)
      (hidden : ∀ creation ∈ state.creations, creation.session = id → creation.indexed = true) :
      Admits state (.register teid id)
  | remove {id : SessionId} (indexed : ¬ state.node.Absent id) : Admits state (.remove id)
  | adjust {id : SessionId} {adjustment : Adjustment}
      (neutral : adjustment.Neutral state.node.endpoint.interface) :
      Admits state (.adjust id adjustment)

inductive Step (network : Network) : Interleaving η → Interleaving η → Prop where
  | begin {state : Interleaving η} {peer : SocketAddress} {elements : List Element}
      {creation : Creation} {node : Node η}
      (prepared : state.node.prepare peer (Operation.request elements).body = .ok (creation, node))
      (own : ∀ other ∈ state.creations, ∀ teid, creation.teid = some teid →
        other.teid ≠ some teid) :
      Step network state ⟨node, { peer, elements, creation } :: state.calls⟩
  | send {state : Interleaving η} {front back : List Call} {call : Call}
      (calls : state.calls = front ++ call :: back) (waiting : call.result = none) :
      Step network state ⟨(call.send network state.node).2,
        front ++ { call with result := some (call.send network state.node).1 } :: back⟩
  | complete {state : Interleaving η} {front back : List Call} {call : Call} {number : UInt32}
      (calls : state.calls = front ++ call :: back) (sent : call.result = some (.ok number)) :
      Step network state ⟨state.node.orSame (state.node.complete call.creation), front ++ back⟩
  | abandon {state : Interleaving η} {front back : List Call} {call : Call} {error : Error}
      (calls : state.calls = front ++ call :: back) (failed : call.result = some (.error error)) :
      Step network state ⟨state.node.abandon call.creation, front ++ back⟩
  | operation {state : Interleaving η} {operation : Operation} (admits : state.Admits operation) :
      Step network state { state with node := operation.after network state.node }
  | other {state : Interleaving η} {node : Node η} (same : state.node.SameIndices node) :
      Step network state { state with node }

abbrev Run (network : Network) : Interleaving η → Interleaving η → Prop :=
  Relation.ReflTransGen (Step network)

structure Sound (state : Interleaving η) : Prop where
  coherent : state.node.Coherent
  stocked : state.node.Stocked
  apart : state.creations.Pairwise Creation.Apart
  underway : ∀ creation ∈ state.creations, creation.Underway state.node

theorem not_shadows_of_indexed (coherent : node.Coherent) (indexed : ¬ node.Absent id) :
    ¬ node.Shadows id := by
  intro shadows
  apply indexed
  constructor
  · exact fun imsi entry => coherent.not_shadows entry shadows
  · exact fun teid entry => coherent.not_shadows (coherent.of_teid entry).2 shadows

theorem underway_admitted {creation : Creation} (underway : creation.Underway state.node)
    (member : creation ∈ state.creations) (admits : state.Admits operation) :
    creation.Underway (operation.after network state.node) := by
  cases admits with
  | openSession => exact underway.addSession _
  | describe =>
      refine orSame_induction underway fun after described => ?_
      obtain ⟨id, described⟩ := map_snd_eq_ok.mp described
      obtain ⟨session, added⟩ := describe_eq_ok described
      cases added
      exact underway.addSession session
  | mint draw => exact underway.mint draw
  | release free => exact underway.release (free creation member)
  | register free hidden => exact underway.register (free creation member) (hidden creation member)
  | @remove id indexed =>
      show creation.Underway (state.node.remove id).2
      unfold Node.remove
      split
      · exact underway
      · exact underway.retire id
  | adjust neutral => exact underway.adjust neutral

namespace Sound

variable (sound : state.Sound)

include sound

theorem of_sameIndices {calls : List Call} (same : state.node.SameIndices node)
    (creations : calls.map Call.creation = state.creations) : Sound ⟨node, calls⟩ where
  coherent := sound.coherent.of_sameIndices same
  stocked := sound.stocked.moves (.single (.same same))
  apart := show List.Pairwise _ (calls.map Call.creation) from creations ▸ sound.apart
  underway creation member :=
    (sound.underway creation (creations ▸ member)).of_sameIndices same

theorem underway_call (calls : state.calls = front ++ call :: back) :
    call.creation.Underway state.node := by
  apply sound.underway
  simp [creations, calls]

theorem finish (calls : state.calls = front ++ call :: back) (coherent : node.Coherent)
    (stocked : node.Stocked)
    (others : ∀ creation : Creation, creation.Underway state.node →
      creation.Apart call.creation → creation.Underway node) :
    Sound ⟨node, front ++ back⟩ := by
  have split : state.creations =
      front.map Call.creation ++ call.creation :: back.map Call.creation := by
    simp [creations, calls]
  have left : (⟨node, front ++ back⟩ : Interleaving η).creations =
      front.map Call.creation ++ back.map Call.creation := List.map_append
  have apart := sound.apart
  rw [split, List.pairwise_middle Creation.Apart.symm, ← left] at apart
  obtain ⟨own, apart⟩ := List.pairwise_cons.mp apart
  refine ⟨coherent, stocked, apart, fun creation member => ?_⟩
  apply others creation
  · apply sound.underway
    rw [left] at member
    rw [split]
    simp only [List.mem_append, List.mem_cons] at member ⊢
    exact member.imp_right .inr
  · exact (own creation member).symm

theorem not_shadows (admits : state.Admits operation) (drops : operation.Drops state.node id) :
    ¬ state.node.Shadows id := by
  cases drops with
  | abandon => cases admits
  | remove active =>
      cases admits with
      | remove indexed => exact not_shadows_of_indexed sound.coherent indexed

theorem admitted (admits : state.Admits operation) :
    Sound { state with node := operation.after network state.node } := by
  have neutral (id : SessionId) (adjustment : Adjustment)
      (same : operation = .adjust id adjustment) :
      adjustment.Neutral state.node.endpoint.interface := by
    cases same
    cases admits with
    | adjust neutral => exact neutral
  have alone (id : SessionId) (drops : operation.Drops state.node id) : ¬ state.node.Shadows id :=
    sound.not_shadows admits drops
  constructor
  case coherent => exact Operation.coherent_after sound.coherent sound.stocked neutral alone
  case stocked => exact Operation.stocked_after sound.stocked neutral
  case apart => exact sound.apart
  case underway =>
    exact fun creation member => underway_admitted (sound.underway creation member) member admits

end Sound

theorem Step.sound (sound : state.Sound) (step : Step network state after) : after.Sound := by
  cases step with
  | @begin peer elements creation node prepared own =>
      obtain ⟨_, session_eq, -⟩ := prepare_eq_ok prepared
      constructor
      case coherent => exact sound.coherent.prepare sound.stocked prepared
      case stocked => exact sound.stocked.moves (moves_prepare allowsOwn_keepsImsi prepared)
      case apart =>
        refine List.pairwise_cons.mpr ⟨fun other member => ?_, sound.apart⟩
        have different : other.session ≠ creation.session :=
          session_eq ▸ Nat.ne_of_lt (sound.underway other member).known
        exact Creation.Apart.symm ⟨different, own other member⟩
      case underway =>
        intro other member
        rcases List.mem_cons.mp member with rfl | member
        · exact .of_prepare sound.coherent sound.stocked prepared
        · exact (sound.underway other member).prepare prepared (own other member)
  | @send front back call calls waiting =>
      apply sound.of_sameIndices
      · exact call.sameIndices_send network state.node
      · simp [creations, calls]
  | @complete front back call number calls sent =>
      apply sound.finish calls
      · exact orSame_induction sound.coherent fun after completed =>
          sound.coherent.complete completed
      · exact orSame_induction sound.stocked fun after completed =>
          sound.stocked.moves (moves_complete allowsOwn_keepsImsi completed)
      · exact fun creation underway apart => underway.complete apart
  | @abandon front back call error calls failed =>
      apply sound.finish calls
      · exact sound.coherent.abandon (sound.underway_call calls).not_shadows
      · exact sound.stocked.moves (moves_abandon allowsOwn_keepsImsi call.creation state.node)
      · exact fun creation underway apart => underway.abandon apart
  | operation admits => exact sound.admitted admits
  | other same => exact sound.of_sameIndices same rfl

theorem Run.sound (sound : start.Sound) (run : Run network start state) : state.Sound := by
  induction run with
  | refl => exact sound
  | tail _ step ih => exact step.sound ih

structure Safe (network : Network) (state : Interleaving η) : Prop where
  coherent : state.node.Coherent
  begun : ∀ {peer : SocketAddress} {elements : List Element} {creation : Creation} {node : Node η},
    state.node.prepare peer (Operation.request elements).body = .ok (creation, node) →
      ∀ other, other ≠ creation.session → Untouched other state.node node
  sent : ∀ call ∈ state.calls, ∀ other, Untouched other state.node (call.send network state.node).2
  abandoned : ∀ call ∈ state.calls, ∀ error, call.result = some (.error error) →
    ∀ other, other ≠ call.creation.session →
      Untouched other state.node (state.node.abandon call.creation)
  absent : ∀ call ∈ state.calls, ∀ error, call.result = some (.error error) →
    (state.node.abandon call.creation).Absent call.creation.session
  reserved : ∀ call ∈ state.calls, ∀ error, call.result = some (.error error) →
    ∀ teid, call.creation.teid = some teid →
      (state.node.abandon call.creation).holder? teid = some .reserved

/-- This starts with coherent indices and a store that has no indexed session where it puts the next
ones. -/
theorem creations_safe (coherent : start.node.Coherent) (stocked : start.node.Stocked)
    (idle : start.calls = []) (run : Run network start state) : state.Safe network := by
  have idle : start.creations = [] := congrArg (List.map Call.creation) idle
  have sound : start.Sound := by
    refine ⟨coherent, stocked, ?_, ?_⟩
    · rw [idle]
      exact .nil
    · simp [idle]
  have sound := run.sound sound
  have underway (call : Call) (member : call ∈ state.calls) : call.creation.Underway state.node :=
    sound.underway call.creation (List.mem_map_of_mem member)
  constructor
  case coherent => exact sound.coherent
  case begun => exact fun prepared other different => untouched_prepare prepared different
  case sent => exact fun call _ other => (call.sameIndices_send network state.node).untouched
  case abandoned =>
    exact fun call member _ _ other different =>
      (underway call member).untouched_abandon sound.coherent different
  case absent => exact fun call member _ _ => (underway call member).absent_abandon sound.coherent
  case reserved =>
    exact fun call member _ _ teid own =>
      (underway call member).reserved_abandon sound.coherent own

theorem eq_ok_of_map_fst {α : Type} {a : α} (node : Node η) {result : Except Error (α × Node η)}
    (found : result.map Prod.fst = .ok a) :
    result = .ok (a, node.orSame (result.map Prod.snd)) := by
  cases result with
  | error error => cases found
  | ok result =>
      cases found
      rfl

def oneSubscriber (teid : UInt32) : List Element :=
  [.ofValue .imsi 0 [0x21, 0xf3], .ofFteid { interface := 0, teid }]

theorem creations_safe_replaced :
    let unreachable : SocketAddress := ⟨.v4 ⟨1⟩, 0, 2123⟩
    let network : Network := fun _ datagram =>
      if datagram.destination = unreachable then some (.network "unreachable") else none
    let node : Node Empty := { endpoint := { Endpoint.ofConfig {} with bound := true } }
    ∃ state : Interleaving Empty, node.Coherent ∧ node.Stocked ∧ Run network { node } state ∧
      ∃ call ∈ state.calls, call.creation = ⟨0, some 7, true⟩ ∧
        (state.node.session 0).removed = true ∧ state.node.holder? 9 = some (.session 1) ∧
        Untouched 1 state.node (state.node.abandon call.creation) ∧
        (state.node.abandon call.creation).Absent 0 ∧
        (state.node.abandon call.creation).holder? 7 = some .reserved := by
  intro unreachable network node
  have vacant : node.Vacant := ⟨rfl, rfl, fun _ _ => rfl⟩
  have one : Run network { node } _ := .single (.operation (.mint fun _ => 7))
  have two := one.tail (.operation (.mint fun _ => 9))
  have first := two.tail (@Step.begin _ _ _ unreachable (oneSubscriber 7) ⟨0, some 7, true⟩ _
    (eq_ok_of_map_fst node (by decide)) (by simp [creations]))
  have second := first.tail (@Step.begin _ _ _ default (oneSubscriber 9) ⟨1, some 9, false⟩ _
    (eq_ok_of_map_fst node (by decide)) (by simp [creations]))
  have failed := second.tail (@Step.send _ _ _ [_] [] _ rfl rfl)
  have sent := failed.tail (@Step.send _ _ _ [] [_] _ rfl rfl)
  have run := sent.tail (@Step.complete _ _ _ [] [_] _ 1 rfl (by decide))
  have safe := creations_safe vacant.coherent vacant.stocked rfl run
  refine ⟨_, vacant.coherent, vacant.stocked, run, _, List.mem_cons_self, rfl, by decide, by decide,
    ?_, ?_, ?_⟩
  · exact safe.abandoned _ List.mem_cons_self (.network "unreachable") (by decide) 1 (by decide)
  · exact safe.absent _ List.mem_cons_self (.network "unreachable") (by decide)
  · exact safe.reserved _ List.mem_cons_self (.network "unreachable") (by decide) 7 rfl

end Interleaving

end TunnelControl
