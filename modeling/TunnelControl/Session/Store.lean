import TunnelControl.Session.Basic

namespace TunnelControl

abbrev SessionId := Nat

structure Sessions where
  next : SessionId := 0
  table : Table SessionId Session := .empty
  deriving Inhabited

namespace Sessions

def get (sessions : Sessions) (id : SessionId) : Session := (sessions.table.get? id).getD default

def add (session : Session) (sessions : Sessions) : SessionId × Sessions :=
  (sessions.next, ⟨sessions.next + 1, sessions.table.insert sessions.next session⟩)

def modify (id : SessionId) (change : Session → Session) (sessions : Sessions) : Sessions :=
  { sessions with table := sessions.table.insert id (change (sessions.get id)) }

theorem get_add (session : Session) (sessions : Sessions) (id : SessionId) :
    (sessions.add session).2.get id = if id = sessions.next then session else sessions.get id := by
  unfold get add
  rw [Table.get?_insert]
  split <;> rfl

@[simp] theorem get_modify (id other : SessionId) (change : Session → Session)
    (sessions : Sessions) :
    (sessions.modify id change).get other =
      if other = id then change (sessions.get id) else sessions.get other := by
  unfold get modify
  rw [Table.get?_insert]
  split <;> rfl

end Sessions

end TunnelControl
