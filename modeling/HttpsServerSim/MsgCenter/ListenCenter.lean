import HttpsServerSim.Lib.MirroredKeys

/-!
# Listening descriptors

`MsgCenter` and its IO threads as far as the listening descriptors go. The facade has a list of
them, which each IO thread keeps again in its own table.
-/

namespace HttpsServerSim

inductive MsgCenterError where
  | success
  | alreadyRunning
  | threadCreateFailed
  | invalidParameter
  | notFound
deriving DecidableEq, Repr

/-- The listening half of an `IoThread`. -/
structure IoThread where
  listenFdToPort : AList fun _ : ℤ => UInt16
  listenFds : List ℤ

namespace IoThread

def construct : IoThread where
  listenFdToPort := ∅
  listenFds := []

def addListenFd (fd : ℤ) (port : UInt16) (thread : IoThread) : IoThread where
  listenFdToPort := thread.listenFdToPort.insert fd port
  listenFds := if fd ∈ thread.listenFds then thread.listenFds else thread.listenFds ++ [fd]

def removeFd (fd : ℤ) (thread : IoThread) : IoThread :=
  if fd ∈ thread.listenFdToPort then
    { listenFdToPort := thread.listenFdToPort.erase fd, listenFds := thread.listenFds.erase fd }
  else thread

/-- A thread that does not have the descriptor is left as it is. -/
theorem removeFd_eq {thread : IoThread} (mirrors : Mirrors thread.listenFds thread.listenFdToPort)
    (fd : ℤ) :
    thread.removeFd fd =
      { listenFdToPort := thread.listenFdToPort.erase fd
        listenFds := thread.listenFds.erase fd } := by
  unfold removeFd
  split
  next => rfl
  next absent =>
    rcases mirrors.erase_of_absent absent with ⟨sameFds, sameTable⟩
    rw [sameFds, sameTable]

end IoThread

/-- `MsgCenter` as the server's thread sees it. -/
structure ListenCenter where
  ioThreadCount : ℕ
  running : Bool
  listenFds : List ℤ
  ioThreads : List IoThread

namespace ListenCenter

/-- The constructor with its default arguments. -/
def construct : ListenCenter where
  ioThreadCount := 2
  running := false
  listenFds := []
  ioThreads := []

def start (center : ListenCenter) (gotThreads : Bool) : MsgCenterError × ListenCenter :=
  if center.running then (.alreadyRunning, center)
  else if gotThreads then
    (.success,
      { center with
        running := true
        ioThreads := center.ioThreads ++ List.replicate center.ioThreadCount .construct })
  else (.threadCreateFailed, center)

def stop (center : ListenCenter) : ListenCenter :=
  if center.running then { center with running := false, ioThreads := [] } else center

def addListenFd (center : ListenCenter) (fd : ℤ) (port : UInt16) : MsgCenterError × ListenCenter :=
  if fd < 0 then (.invalidParameter, center)
  else
    (.success,
      { center with
        listenFds := if fd ∈ center.listenFds then center.listenFds else center.listenFds ++ [fd]
        ioThreads := center.ioThreads.map (IoThread.addListenFd fd port) })

def removeListenFd (center : ListenCenter) (fd : ℤ) : MsgCenterError × ListenCenter :=
  (if fd ∈ center.listenFds then .success else .notFound,
    { center with
      listenFds := center.listenFds.erase fd
      ioThreads := center.ioThreads.map (IoThread.removeFd fd) })

end ListenCenter

end HttpsServerSim
