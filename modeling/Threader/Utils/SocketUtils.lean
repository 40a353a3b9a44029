import Mathlib.Data.List.Basic
import Mathlib.Data.List.Perm.Subperm

/-! `SocketUtils`: the calls that open a client socket, each of which may fail. -/

namespace Threader

/-- `Descriptor`: an `int`, of which the system only hands out nonnegative ones. -/
abbrev Descriptor := Int

/-- `INVALID_DESCRIPTOR`. -/
def INVALID_DESCRIPTOR : Descriptor := -1

/-- The descriptor of a socket is never the invalid one. -/
theorem socket_ne_invalid (socket : Nat) : (socket : Descriptor) ≠ INVALID_DESCRIPTOR := by
  intro same
  have negative : (socket : Int) = -1 := same
  omega

/-- `EINPROGRESS`. -/
def EINPROGRESS : Int := 115

/--
What the system answers to the calls of `openTcpClientSocket`.

A call succeeds, or it fails and leaves any number at all in `errno`.
-/
structure SocketCalls where
  getaddrinfo : Option Int
  -- A call of `socket` that succeeds returns a descriptor.
  socket : Except Int Nat
  fcntl : Option Int
  sendTimeout : Option Int
  receiveTimeout : Option Int
  synCount : Option Int
  connect : Option Int

namespace SocketUtils

/-- `closeSocket(socket)`, on the sockets that are open. -/
def closeSocket (socket : Descriptor) (sockets : List Nat) : List Nat :=
  sockets.filter fun other => (other : Int) != socket

/--
`openTcpClientSocket(ipAddress, port, errorCode)`, with the sockets that are open.

The error code is only assigned when a call fails.
-/
def openTcpClientSocket (calls : SocketCalls) (errorCode : Int) (sockets : List Nat) :
    Descriptor × Int × List Nat :=
  match calls.getaddrinfo with
  | some error => (INVALID_DESCRIPTOR, error, sockets)
  | none =>
    match calls.socket with
    | .error error => (INVALID_DESCRIPTOR, error, sockets)
    | .ok result =>
      let sockets := result :: sockets
      -- The settings are made one after another, and the first failure gives the socket up.
      match calls.fcntl <|> calls.sendTimeout <|> calls.receiveTimeout <|> calls.synCount with
      | some error => (INVALID_DESCRIPTOR, error, closeSocket result sockets)
      | none =>
        match calls.connect with
        | some error =>
          if error ≠ EINPROGRESS then (INVALID_DESCRIPTOR, error, closeSocket result sockets)
          else (result, error, sockets)
        | none => (result, errorCode, sockets)

end SocketUtils

/-- The `errno` of the first call that fails, or what the error code was before when none does. -/
def SocketCalls.firstError (calls : SocketCalls) (errorCode : Int) : Int :=
  (calls.getaddrinfo <|> (match calls.socket with | .error error => some error | .ok _ => none) <|>
    calls.fcntl <|> calls.sendTimeout <|> calls.receiveTimeout <|> calls.synCount <|>
    calls.connect).getD errorCode

namespace SocketUtils

/-- A socket that was opened is closed alone. -/
@[simp] theorem closeSocket_own (socket : Nat) : closeSocket socket [socket] = [] := by
  simp [closeSocket]

/-- The error code afterwards is that of the first call that fails. -/
theorem openTcpClientSocket_errorCode (calls : SocketCalls) (errorCode : Int)
    (sockets : List Nat) :
    (openTcpClientSocket calls errorCode sockets).2.1 = calls.firstError errorCode := by
  -- Every exit of the function is one way in which the calls can end.
  obtain ⟨getaddrinfo, socket, fcntl, sendTimeout, receiveTimeout, synCount, connect⟩ := calls
  unfold openTcpClientSocket SocketCalls.firstError
  cases getaddrinfo with
  | some error => rfl
  | none =>
    cases socket with
    | error error => rfl
    | ok result =>
      dsimp only
      generalize settings : (fcntl <|> sendTimeout <|> receiveTimeout <|> synCount) = failure
      have chain : (fcntl <|> sendTimeout <|> receiveTimeout <|> synCount <|> connect) =
          (failure <|> connect) := by
        rw [← settings]
        cases fcntl <;> cases sendTimeout <;> cases receiveTimeout <;> rfl
      show _ = (fcntl <|> sendTimeout <|> receiveTimeout <|> synCount <|> connect).getD errorCode
      rw [chain]
      cases failure with
      | some error => rfl
      | none =>
        cases connect with
        | none => rfl
        | some error =>
          dsimp only
          split <;> rfl

/-- Either no socket is left open and none is returned, or the one that is left is returned. -/
theorem openTcpClientSocket_sockets (calls : SocketCalls) (errorCode : Int) :
    ((openTcpClientSocket calls errorCode []).1 = INVALID_DESCRIPTOR ∧
        (openTcpClientSocket calls errorCode []).2.2 = []) ∨
      ∃ socket : Nat, (openTcpClientSocket calls errorCode []).1 = socket ∧
        (openTcpClientSocket calls errorCode []).2.2 = [socket] := by
  unfold openTcpClientSocket
  split
  · exact .inl ⟨rfl, rfl⟩
  · split
    · exact .inl ⟨rfl, rfl⟩
    · -- From here on there is a socket, which every failure closes.
      rename_i result _
      dsimp only
      split
      · exact .inl ⟨rfl, closeSocket_own result⟩
      · split
        · split
          · exact .inl ⟨rfl, closeSocket_own result⟩
          · exact .inr ⟨result, rfl, rfl⟩
        · exact .inr ⟨result, rfl, rfl⟩

end SocketUtils

/-- What a system call that has failed leaves in `errno`, which is never zero. -/
abbrev Errno := { code : Int // code ≠ 0 }

/-- What the system answers to the calls of `createTcpServerSocket`. -/
structure ServerSocketCalls where
  socket : Option Errno
  reuseAddress : Option Errno
  fcntl : Option Errno
  bind : Option Errno
  listen : Option Errno

namespace SocketUtils

/-- The descriptor the system hands out: the lowest one that is not open. -/
def lowest (sockets : List Nat) : Nat :=
  ((List.range (sockets.length + 1)).find? (· ∉ sockets)).getD 0

/-- `createTcpServerSocket(port, false, addr, errorCode)`, with the descriptors that are open. -/
def createTcpServerSocket (calls : ServerSocketCalls) (sockets : List Nat) :
    Descriptor × Int × List Nat :=
  match calls.socket with
  | some error => (INVALID_DESCRIPTOR, error, closeSocket INVALID_DESCRIPTOR sockets)
  | none =>
    let result := lowest sockets
    let sockets := result :: sockets
    match calls.reuseAddress <|> calls.fcntl <|> calls.bind <|> calls.listen with
    | some error => (INVALID_DESCRIPTOR, error, closeSocket result sockets)
    | none => (result, 0, sockets)

/-- Among one more number than there are descriptors, one is not open. -/
theorem lowest_notMem (sockets : List Nat) : lowest sockets ∉ sockets := by
  unfold lowest
  cases found : (List.range (sockets.length + 1)).find? (· ∉ sockets) with
  | some socket => simpa using List.find?_some found
  | none =>
    -- Otherwise all these numbers would be open, which are too many.
    have all : List.range (sockets.length + 1) ⊆ sockets := by
      intro number inside
      simpa using List.find?_eq_none.mp found number inside
    have fewer := (List.nodup_range.subperm all).length_le
    rw [List.length_range] at fewer
    omega

/-- A descriptor is closed alone. -/
theorem mem_closeSocket {socket : Descriptor} {sockets : List Nat} {other : Nat} :
    other ∈ closeSocket socket sockets ↔ other ∈ sockets ∧ (other : Int) ≠ socket := by
  simp [closeSocket]

/-- A server socket is open if there is no error, and nothing else has been opened or closed. -/
theorem createTcpServerSocket_cases (calls : ServerSocketCalls) (sockets : List Nat) :
    (∃ error : Errno,
      createTcpServerSocket calls sockets = (INVALID_DESCRIPTOR, error.val, sockets)) ∨
    createTcpServerSocket calls sockets =
      ((lowest sockets : Descriptor), 0, lowest sockets :: sockets) := by
  -- What was open before is not closed with the socket that is given up.
  have kept (socket : Descriptor) (absent : ∀ other ∈ sockets, (other : Int) ≠ socket) :
      closeSocket socket sockets = sockets :=
    List.filter_eq_self.mpr fun other member => by simpa using absent other member
  have fresh := lowest_notMem sockets
  unfold createTcpServerSocket
  split
  · rename_i error _
    exact .inl ⟨error, by rw [kept _ fun other _ => socket_ne_invalid other]⟩
  · dsimp only
    split
    · rename_i error _
      have closed : closeSocket (lowest sockets) (lowest sockets :: sockets) = sockets := by
        have others := kept (lowest sockets) fun other member same =>
          fresh (Int.natCast_inj.mp same ▸ member)
        rw [closeSocket, List.filter_cons_of_neg (by simp)]
        exact others
      exact .inl ⟨error, by rw [closed]⟩
    · exact .inr rfl

end SocketUtils

end Threader
