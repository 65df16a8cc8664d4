import TunnelControl.Proofs.Session.Channel

namespace TunnelControl

namespace Inbox

namespace Ending

def accepted? : Ending → Option Message
  | delivered message => some message
  | _ => none

def taken? : Ending → Option Message
  | taken _ message => some message
  | _ => none

theorem result_taken (sequence : UInt32) (message : Message) :
    (taken sequence message).result =
      if message.sequence = sequence then .ok (some message)
      else .error (.outOfSequence sequence message.sequence) := by
  show some <$> message.asReply sequence = _
  unfold Message.asReply
  split <;> rfl

theorem taken_of_result {ending : Ending} {message : Message}
    (told : ending.result = .ok (some message)) :
    ∃ sequence, ending = .taken sequence message ∧ message.sequence = sequence := by
  cases ending with
  | taken sequence own =>
      rw [result_taken] at told
      split at told
      · next same =>
          cases told
          exact ⟨sequence, rfl, same⟩
      · cases told
  | _ => cases told

theorem nothing_of_timeout {ending : Ending} (told : ending.result = .error .timeout) :
    ending.accepted? = none ∧ ending.taken? = none := by
  cases ending with
  | delivered => cases told
  | taken sequence own =>
      rw [result_taken] at told
      split at told <;> cases told
  | _ => exact ⟨rfl, rfl⟩

end Ending

namespace Progress

def ending? : Progress → Option Ending
  | ends ending => some ending
  | waits _ => none

def call? : Progress → Option Call
  | ends _ => none
  | waits call => some call

end Progress

def Call.awaits? : Call → Option UInt32
  | send _ => none
  | lock sequence | receive sequence => some sequence

/-- What a call does, when it gets on or ends, to the contents of the channel. -/
inductive Shifts (ticket : Ticket) (contents : Contents Message) :
    Call → Progress → Contents Message → Prop where
  | accepted {message : Message} :
      Shifts ticket contents (.send message) (.ends (.delivered message))
        { contents.send ticket none with stored := contents.stored ++ [message] }
  | refused {message : Message} :
      Shifts ticket contents (.send message) (.ends (.undelivered message))
        (contents.send ticket none)
  | sends {message : Message} :
      Shifts ticket contents (.send message) (.waits (.send message))
        (contents.send ticket (some message))
  | locks {sequence : UInt32} :
      Shifts ticket contents (.lock sequence) (.waits (.lock sequence)) contents
  | leaves {sequence : UInt32} :
      Shifts ticket contents (.lock sequence) (.ends (.missed sequence)) contents
  | receives {call : Call} {sequence : UInt32} (awaits : call.awaits? = some sequence)
      (alone : ∀ other, contents.receiving = some other → other = ticket) :
      Shifts ticket contents call (.waits (.receive sequence))
        { contents with receiving := some ticket }
  | taken {call : Call} {sequence : UInt32} {message : Message} {stored : List Message}
      (awaits : call.awaits? = some sequence)
      (alone : ∀ other, contents.receiving = some other → other = ticket)
      (first : contents.stored = message :: stored) :
      Shifts ticket contents call (.ends (.taken sequence message))
        { contents with stored, receiving := none }
  | missed {call : Call} {sequence : UInt32} (awaits : call.awaits? = some sequence)
      (alone : ∀ other, contents.receiving = some other → other = ticket) :
      Shifts ticket contents call (.ends (.missed sequence)) { contents with receiving := none }

structure Agrees (contents : Contents Message) (ticket : Ticket) (pending : Option Call) :
    Prop where
  sends : ∀ message, contents.sending ticket = some message → pending = some (.send message)
  receives : contents.receiving = some ticket ↔ ∃ sequence, pending = some (.receive sequence)

namespace Shifts

variable {ticket other : Ticket} {contents after : Contents Message} {call : Call}
  {progress : Progress} {pending : Option Call}

theorem conserves (shifts : Shifts ticket contents call progress after) :
    contents.stored ++ progress.ending?.toList.filterMap Ending.accepted? =
      progress.ending?.toList.filterMap Ending.taken? ++ after.stored := by
  cases shifts with
  | accepted => rfl
  | taken awaits alone first => exact (List.append_nil _).trans first
  | _ => exact List.append_nil _

theorem sending_of_awaits {sequence : UInt32} (agrees : Agrees contents ticket (some call))
    (awaits : call.awaits? = some sequence) : contents.sending ticket = none := by
  cases sending : contents.sending ticket with
  | none => rfl
  | some message =>
      cases agrees.sends message sending
      cases awaits

theorem agrees_own (shifts : Shifts ticket contents call progress after)
    (agrees : Agrees contents ticket (some call)) : Agrees after ticket progress.call? := by
  have receives := agrees.receives
  cases shifts with
  | accepted | refused =>
      exact ⟨fun message sending => by simp at sending, by simpa [Progress.call?] using receives⟩
  | sends =>
      exact ⟨fun message sending => by simpa [Progress.call?] using sending,
        by simpa [Progress.call?] using receives⟩
  | locks => exact agrees
  | leaves =>
      refine ⟨fun message sending => ?_, by simpa [Progress.call?] using receives⟩
      cases agrees.sends message sending
  | receives awaits alone | taken awaits alone | missed awaits alone =>
      have idle := sending_of_awaits agrees awaits
      exact ⟨fun message sending => by simp [idle] at sending, by simp [Progress.call?]⟩

theorem agrees_other (shifts : Shifts ticket contents call progress after)
    (distinct : other ≠ ticket) (agrees : Agrees contents other pending) :
    Agrees after other pending := by
  -- nobody receives but the task itself, so what others are at stays as it is
  obtain ⟨sends, receives⟩ := agrees
  cases shifts with
  | accepted | refused | sends =>
      refine ⟨?_, receives⟩
      simpa only [Contents.send_sending_of_ne distinct] using sends
  | locks | leaves => exact ⟨sends, receives⟩
  | receives awaits alone | taken awaits alone | missed awaits alone =>
      have idle : contents.receiving ≠ some other := fun own => distinct (alone other own)
      refine ⟨sends, ?_⟩
      rw [← receives]
      simp [idle, distinct.symm]

end Shifts

variable {σ τ : Type} {channel : Channel σ Message} {lock : Lock τ}
  {Holds : Nat → σ → Contents Message → Prop} {Owned : τ → Option Ticket → Prop}
  {capacity : Nat} {inbox : Inbox σ τ} {contents : Contents Message} {ticket : Ticket} {call : Call}

structure Fits (Holds : Nat → σ → Contents Message → Prop) (Owned : τ → Option Ticket → Prop)
    (capacity : Nat) (inbox : Inbox σ τ) (contents : Contents Message) : Prop where
  holds : Holds capacity inbox.channel contents
  owned : Owned inbox.lock contents.receiving

theorem receive_shifts {sequence : UInt32} (fifo : channel.BoundedFifo Holds)
    (exclusive : lock.Exclusive Owned) (holds : Holds capacity inbox.channel contents)
    (owned : Owned inbox.lock (some ticket))
    (alone : ∀ other, contents.receiving = some other → other = ticket)
    (awaits : call.awaits? = some sequence) :
    ∃ after, Shifts ticket contents call (inbox.receive channel lock ticket sequence).1 after ∧
      Fits Holds Owned capacity (inbox.receive channel lock ticket sequence).2.2 after := by
  obtain ⟨after, received, kept⟩ := fifo.receive holds alone
  have released := exclusive.release owned
  unfold receive
  cases performed : channel.receive ticket inbox.channel with
  | mk result state =>
      rw [performed] at received kept
      cases received with
      | taken first => exact ⟨_, .taken awaits alone first, kept, released⟩
      | closed => exact ⟨_, .missed awaits alone, kept, released⟩
      | queued => exact ⟨_, .receives awaits alone, kept, owned⟩

theorem send_shifts {message : Message} (fifo : channel.BoundedFifo Holds)
    (fits : Fits Holds Owned capacity inbox contents)
    (agrees : Agrees contents ticket (some (.send message))) :
    ∃ after, Shifts ticket contents (.send message) (inbox.send channel ticket message).1 after ∧
      Fits Holds Owned capacity (inbox.send channel ticket message).2.2 after := by
  have same : ∀ other, contents.sending ticket = some other → other = message := by
    intro other sending
    cases agrees.sends other sending
    rfl
  obtain ⟨after, sent, kept⟩ := fifo.send fits.holds same
  unfold send
  cases performed : channel.send ticket message inbox.channel with
  | mk result state =>
      rw [performed] at sent kept
      cases sent with
      | accepted => exact ⟨_, .accepted, kept, fits.owned⟩
      | refused => exact ⟨_, .refused, kept, fits.owned⟩
      | queued => exact ⟨_, .sends, kept, fits.owned⟩

theorem acquire_shifts {sequence : UInt32} (fifo : channel.BoundedFifo Holds)
    (exclusive : lock.Exclusive Owned) (fits : Fits Holds Owned capacity inbox contents)
    (other : contents.receiving ≠ some ticket) :
    ∃ after, Shifts ticket contents (.lock sequence)
        (inbox.acquire channel lock ticket sequence).1 after ∧
      Fits Holds Owned capacity (inbox.acquire channel lock ticket sequence).2.2 after := by
  obtain ⟨owner, acquired, kept⟩ := exclusive.acquire fits.owned other
  unfold acquire
  cases performed : lock.acquire ticket inbox.lock with
  | mk result turn =>
      rw [performed] at acquired kept
      generalize receives : contents.receiving = receiving at acquired
      cases acquired with
      | done =>
          have alone : ∀ other, contents.receiving = some other → other = ticket := by
            simp [receives]
          have holds : Holds capacity ({ inbox with lock := turn } : Inbox σ τ).channel contents :=
            fits.holds
          exact receive_shifts fifo exclusive holds kept alone rfl
      | queued => exact ⟨_, .locks, fits.holds, receives ▸ kept⟩

theorem Agrees.not_receiving {sequence : UInt32}
    (agrees : Agrees contents ticket (some (.lock sequence))) :
    contents.receiving ≠ some ticket := by
  intro own
  obtain ⟨_, own⟩ := agrees.receives.mp own
  cases own

theorem Agrees.receiving {sequence : UInt32}
    (agrees : Agrees contents ticket (some (.receive sequence))) :
    contents.receiving = some ticket :=
  agrees.receives.mpr ⟨sequence, rfl⟩

theorem attempt_shifts (fifo : channel.BoundedFifo Holds) (exclusive : lock.Exclusive Owned)
    (fits : Fits Holds Owned capacity inbox contents)
    (agrees : Agrees contents ticket (some call)) :
    ∃ after, Shifts ticket contents call (inbox.attempt channel lock ticket call).1 after ∧
      Fits Holds Owned capacity (inbox.attempt channel lock ticket call).2.2 after := by
  cases call with
  | send message => exact send_shifts fifo fits agrees
  | lock sequence => exact acquire_shifts fifo exclusive fits agrees.not_receiving
  | receive sequence =>
      have own := agrees.receiving
      exact receive_shifts fifo exclusive fits.holds (own ▸ fits.owned) (by simp [own]) rfl

theorem giveUp_shifts (safe : channel.CancelSafe Holds) (exclusive : lock.Exclusive Owned)
    (unlocked : lock.CancelSafe Owned) (fits : Fits Holds Owned capacity inbox contents)
    (agrees : Agrees contents ticket (some call)) :
    ∃ after, Shifts ticket contents call (.ends (inbox.giveUp channel lock ticket call).1) after ∧
      Fits Holds Owned capacity (inbox.giveUp channel lock ticket call).2.2 after := by
  cases call with
  | send message => exact ⟨_, .refused, safe.leaveSending ticket fits.holds, fits.owned⟩
  | lock sequence =>
      exact ⟨_, .leaves, fits.holds, unlocked.leave fits.owned agrees.not_receiving⟩
  | receive sequence =>
      have own := agrees.receiving
      exact ⟨_, .missed rfl (by simp [own]), safe.leaveReceiving fits.holds own,
        exclusive.release (own ▸ fits.owned)⟩

end Inbox

end TunnelControl
