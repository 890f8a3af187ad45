import CartridgeBank.Network

namespace CartridgeBank

/-- A peer that gives prepared replies, one to each complete request, and closes the connection
when it has none left. -/
structure Rehearsal where
  /-- The replies to come, each with whether the connection is closed after it. -/
  replies : List (Bytes × Bool)
  /-- How many connections have begun. -/
  connections : Nat := 0
  /-- The bytes not yet read from the present connection, if there is one. -/
  unread : Option Bytes := none
  /-- The requests so far with the number of their connection, the latest first. -/
  requests : List (Nat × Bytes) := []
deriving Repr

namespace Rehearsal

/-- The number of bytes of the request at the front, once its header is complete. -/
def requestSize? (unread : Bytes) : Option Nat :=
  if unread.length < 16 then none else some (16 + ofBigEndian ((unread.drop 8).take 8))

/-- Answers the complete requests among the unread bytes, at most `limit` of them. -/
def advance : Nat → Rehearsal → Bytes × Rehearsal
  | 0, rehearsal => ([], rehearsal)
  | limit + 1, rehearsal =>
    match rehearsal.unread with
    | none => ([], rehearsal)
    | some unread =>
      match requestSize? unread with
      | none => ([], rehearsal)
      | some size =>
        if unread.length < size then ([], rehearsal)
        else
          let request := (rehearsal.connections - 1, unread.take size)
          let rehearsal := { rehearsal with requests := request :: rehearsal.requests }
          match rehearsal.replies with
          | [] => ([], { rehearsal with unread := none })
          | (reply, true) :: replies => (reply, { rehearsal with replies, unread := none })
          | (reply, false) :: replies =>
            let (more, rehearsal) :=
              advance limit { rehearsal with replies, unread := some (unread.drop size) }
            (reply ++ more, rehearsal)

instance : Peer Rehearsal where
  accept rehearsal :=
    { rehearsal with connections := rehearsal.connections + 1, unread := some [] }
  deliver bytes rehearsal :=
    let unread := rehearsal.unread.map (· ++ bytes)
    advance ((unread.getD []).length) { rehearsal with unread }
  hangUp rehearsal := { rehearsal with unread := none }

end Rehearsal

end CartridgeBank
