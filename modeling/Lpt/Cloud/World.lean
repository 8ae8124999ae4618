import Lpt.Base.Program
import Lpt.Cloud.Tcp

/-!
# The state of the cloud module and the operations on it

`Cloud` is `cloud_t` and `DevInfo` is `devinfo_t`, without the fields no modelled
function reads (`host`, `port`, `p2p_timeout`, `op`, `stream_port`).  A `World` is
that struct together with the persisted configuration, the table of sockets that
are open, and the record of what went over them, newest event first.

The code is written in the monad `CloudM` of programs over the operations `Op`:
the accesses to the struct, and the calls that leave the module.  `handle` says
what an operation does in one piece of sequential execution; the results the
environment chooses are its `Input`.  The mutex has no effect there: it only
matters when two threads are interleaved.
-/

namespace SwCloud

open CLib Effect

/-! ## Data -/

/-- `devinfo_t`. -/
structure DevInfo (P : CldProtocol) where
  id : Field P.cldDevidLen
  model : Field P.cloudNameLen
  desc : Field P.cloudNameLen
  admin : Field P.cloudNameLen
  password : Field P.cloudNameLen
  eip : Field 16
  eport : Field 8
  deriving DecidableEq

/-- `cloud_t`. -/
structure Cloud (P : CldProtocol) where
  /-- Milliseconds of the retry interval. -/
  retryWait : ℤ
  /-- Number of maximum retries to connect to the server. -/
  retryMax : ℤ
  devinfo : DevInfo P
  account : Field P.cloudNameLen
  password : Field P.cloudNameLen
  /-- Reachable to the cloud? -/
  reachable : Reachable
  /-- Bound to the cloud? -/
  binded : Bool
  /-- Need update? -/
  update : Bool
  /-- Current connection status. -/
  status : Status
  fd : ℤ
  /-- Milliseconds waited. -/
  waits : ℤ
  retries : ℤ
  deriving DecidableEq

/-- The entries of the configuration file that the module reads or writes. -/
structure Conf (P : CldProtocol) where
  account : Field P.cloudNameLen
  password : Field P.cloudNameLen
  retryWait : ℤ
  retryMax : ℤ
  deriving DecidableEq

/-- `sysConfGetLong`. -/
def Conf.getLong {P : CldProtocol} (f : Conf P) : CfgLong → ℤ
  | .retryWait => f.retryWait
  | .retryMax => f.retryMax

@[simp] theorem Conf.getLong_retryWait {P : CldProtocol} (f : Conf P) :
    f.getLong .retryWait = f.retryWait := rfl

/-- Who calls `cloud_recv_packet`: this is part of the record only, the function itself
does not know it. -/
inductive Receiver where
  /-- `cloud_send_packet`, for the reply to this request. -/
  | reply (hdr : CldHdr) (payload : List UInt8)
  /-- `network_device_control`. -/
  | control
  deriving DecidableEq

/-- What the module does with the network, and what comes back. -/
inductive Event where
  /-- `socket` returned this descriptor, or `-1`. -/
  | socket (fd : ℤ)
  /-- `connect` on `fd` returned `ret`. -/
  | connect (fd ret : ℤ)
  /-- The first `read` of a connection, in `cloud_do_connect`, returned `ret`. -/
  | greeting (fd ret : ℤ)
  /-- `close` on `fd`. -/
  | close (fd : ℤ)
  /-- `tcp_write` of a packet with this header and payload returned `ret`. -/
  | wrote (fd : ℤ) (hdr : CldHdr) (payload : List UInt8) (ret : ℤ)
  /-- `cloud_recv_packet` returned `ret`, with these bytes in its buffer. -/
  | received (rc : Receiver) (fd ret : ℤ) (mem : List UInt8)
  /-- `cloud_send_packet` refused a text for this command as too large. -/
  | tooLarge (cmd : ℕ)
  deriving DecidableEq

/-- The module and its surroundings. -/
structure World (P : CldProtocol) where
  cloud : Cloud P
  /-- The persisted configuration. -/
  conf : Conf P
  /-- The sockets that have been opened and not closed. -/
  sockets : List ℤ
  /-- What happened so far, newest first. -/
  trace : List Event
  deriving DecidableEq

namespace World

variable {P : CldProtocol}

/-- Record an event. -/
def log (w : World P) (e : Event) : World P := { w with trace := e :: w.trace }

/-- Change the struct. -/
def modify (w : World P) (f : Cloud P → Cloud P) : World P := { w with cloud := f w.cloud }

/-- A socket has been opened. -/
def opened (w : World P) (fd : ℤ) : World P :=
  { w with sockets := fd :: w.sockets, trace := .socket fd :: w.trace }

/-- A socket has been closed. -/
def closed (w : World P) (fd : ℤ) : World P :=
  { w with sockets := w.sockets.erase fd, trace := .close fd :: w.trace }

/-- `sysConfSetString` of the account or the password. -/
def setConf (w : World P) : CfgString → Field P.cloudNameLen → World P
  | .account, v => { w with conf := { w.conf with account := v } }
  | .password, v => { w with conf := { w.conf with password := v } }

@[simp] theorem cloud_log (w : World P) (e : Event) : (w.log e).cloud = w.cloud := rfl
@[simp] theorem conf_log (w : World P) (e : Event) : (w.log e).conf = w.conf := rfl
@[simp] theorem sockets_log (w : World P) (e : Event) : (w.log e).sockets = w.sockets := rfl
@[simp] theorem trace_log (w : World P) (e : Event) : (w.log e).trace = e :: w.trace := rfl
@[simp] theorem cloud_modify (w : World P) (f : Cloud P → Cloud P) :
    (w.modify f).cloud = f w.cloud := rfl
@[simp] theorem conf_modify (w : World P) (f : Cloud P → Cloud P) :
    (w.modify f).conf = w.conf := rfl
@[simp] theorem sockets_modify (w : World P) (f : Cloud P → Cloud P) :
    (w.modify f).sockets = w.sockets := rfl
@[simp] theorem trace_modify (w : World P) (f : Cloud P → Cloud P) :
    (w.modify f).trace = w.trace := rfl
@[simp] theorem cloud_opened (w : World P) (fd : ℤ) : (w.opened fd).cloud = w.cloud := rfl
@[simp] theorem conf_opened (w : World P) (fd : ℤ) : (w.opened fd).conf = w.conf := rfl
@[simp] theorem sockets_opened (w : World P) (fd : ℤ) :
    (w.opened fd).sockets = fd :: w.sockets := rfl
@[simp] theorem trace_opened (w : World P) (fd : ℤ) :
    (w.opened fd).trace = .socket fd :: w.trace := rfl
@[simp] theorem cloud_closed (w : World P) (fd : ℤ) : (w.closed fd).cloud = w.cloud := rfl
@[simp] theorem conf_closed (w : World P) (fd : ℤ) : (w.closed fd).conf = w.conf := rfl
@[simp] theorem sockets_closed (w : World P) (fd : ℤ) :
    (w.closed fd).sockets = w.sockets.erase fd := rfl
@[simp] theorem trace_closed (w : World P) (fd : ℤ) :
    (w.closed fd).trace = .close fd :: w.trace := rfl
@[simp] theorem cloud_setConf (w : World P) (k : CfgString) (v : Field P.cloudNameLen) :
    (w.setConf k v).cloud = w.cloud := by cases k <;> rfl
@[simp] theorem sockets_setConf (w : World P) (k : CfgString) (v : Field P.cloudNameLen) :
    (w.setConf k v).sockets = w.sockets := by cases k <;> rfl
@[simp] theorem trace_setConf (w : World P) (k : CfgString) (v : Field P.cloudNameLen) :
    (w.setConf k v).trace = w.trace := by cases k <;> rfl
@[simp] theorem conf_setConf_account (w : World P) (v : Field P.cloudNameLen) :
    (w.setConf .account v).conf = { w.conf with account := v } := rfl
@[simp] theorem conf_setConf_password (w : World P) (v : Field P.cloudNameLen) :
    (w.setConf .password v).conf = { w.conf with password := v } := rfl

end World

/-! ## Operations -/

/-- The result of `select`. -/
inductive SelectRes where
  | timeout
  | eintr
  | err
  | ready
  deriving DecidableEq

/-- What a program of this module can ask for. -/
inductive Op (P : CldProtocol) where
  /-- Read the struct. -/
  | get
  /-- Change the struct. -/
  | modify (f : Cloud P → Cloud P)
  /-- Read `cloud.status`. -/
  | getStatus
  /-- Write `cloud.status`. -/
  | setStatus (s : Status)
  /-- Read `cloud.update`. -/
  | getUpdate
  /-- Write `cloud.update`. -/
  | setUpdate (b : Bool)
  /-- `CM_MUTEX_LOCK(cloud.lock)`. -/
  | lock
  /-- `CM_MUTEX_UNLOCK(cloud.lock)`. -/
  | unlock
  | socket
  | connect (fd : ℤ)
  /-- `read` of the greeting of a new connection. -/
  | readGreeting (fd : ℤ)
  | close (fd : ℤ)
  /-- `tcp_write` of one packet. -/
  | tcpWrite (fd : ℤ) (hdr : CldHdr) (payload : List UInt8)
  /-- `cloud_recv_packet` into the memory `res`. -/
  | recvPacket (rc : Receiver) (fd : ℤ) (res : List UInt8)
  | select (fd mwait : ℤ)
  /-- `sleep` and `usleep`. -/
  | sleep (mwait : ℤ)
  /-- The contents of `n` bytes that nothing has written yet. -/
  | stack (n : ℕ)
  /-- The log line `packet too large`. -/
  | logTooLarge (cmd : ℕ)
  /-- A call whose behaviour is undefined, such as `memcpy` of a negative length. -/
  | crash
  | sysConfGetLong (key : CfgLong)
  | sysConfSetString (key : CfgString) (v : Field P.cloudNameLen)
  | swSystemSetProductName (name : CStr)
  | swSystemSetProductNameCheck (name : CStr)
  | swVideoCtrlGetResolution
  | swVideoCtrlSetResolution (width height : ℤ)

/-- What an operation is answered with. -/
abbrev Ans (P : CldProtocol) : Op P → Type
  | .get => Cloud P
  | .getStatus => Status
  | .getUpdate => Bool
  | .socket | .connect _ | .readGreeting _ | .tcpWrite .. | .sysConfGetLong _ => ℤ
  | .recvPacket .. => ℤ × List UInt8
  | .select .. => SelectRes
  | .stack _ => List UInt8
  | .swSystemSetProductName _ | .swSystemSetProductNameCheck _ => CommonStatus
  | .swVideoCtrlGetResolution => ℤ × ℤ
  | .swVideoCtrlSetResolution .. => ℤ
  | .modify _ | .setStatus _ | .setUpdate _ | .lock | .unlock | .close _ | .sleep _
  | .logTooLarge _ | .crash | .sysConfSetString .. => Unit

/-- What the environment contributes to one operation. -/
inductive Input where
  /-- Nothing. -/
  | none
  /-- The result of a call. -/
  | int (r : ℤ)
  /-- The results of the `write` calls of a loop. -/
  | writes (es : List WriteEv)
  /-- What the peer has sent, and the results of the `read` calls of a loop. -/
  | reads (stream : List UInt8) (es : List ReadEv)
  | select (r : SelectRes)
  | bytes (m : List UInt8)
  | status (s : CommonStatus)
  | ints (a b : ℤ)
  deriving DecidableEq, Inhabited

/-- Programs of the cloud module. -/
abbrev CloudM (P : CldProtocol) : Type → Type := Prog (Op P) (Ans P)

/-- What one operation does.  A descriptor that is not open gives an error, as
`EBADF`; everything else about the network is up to the environment. -/
def handle (P : CldProtocol) : Handler (Op P) (Ans P) Input (World P)
  | .get, _, w => some (w.cloud, w)
  | .modify f, _, w => some ((), w.modify f)
  | .getStatus, _, w => some (w.cloud.status, w)
  | .setStatus s, _, w => some ((), w.modify fun c => { c with status := s })
  | .getUpdate, _, w => some (w.cloud.update, w)
  | .setUpdate b, _, w => some ((), w.modify fun c => { c with update := b })
  | .lock, _, w => some ((), w)
  | .unlock, _, w => some ((), w)
  | .socket, .int r, w =>
      if r = -1 then some (-1, w.log (.socket (-1)))
      else if 0 ≤ r ∧ r ∉ w.sockets then
        some (r, w.opened r)
      else none
  | .connect fd, .int r, w => some (r, w.log (.connect fd r))
  | .readGreeting fd, .int r, w => some (r, w.log (.greeting fd r))
  | .close fd, _, w => some ((), w.closed fd)
  | .tcpWrite fd hdr payload, .writes es, w =>
      if fd ∈ w.sockets then
        (tcpWrite (P.enc hdr ++ payload) es).map fun r =>
          (r.ret, w.log (.wrote fd hdr payload r.ret))
      else some (-1, w.log (.wrote fd hdr payload (-1)))
  | .recvPacket rc fd res, .reads s es, w =>
      if fd ∈ w.sockets then
        (cloudRecvPacket P res s es).map fun r =>
          ((r.ret, r.mem), w.log (.received rc fd r.ret r.mem))
      else some ((-1, res), w.log (.received rc fd (-1) res))
  | .select _ _, .select r, w => some (r, w)
  | .sleep _, _, w => some ((), w)
  | .stack n, .bytes m, w => if m.length = n then some (m, w) else none
  | .logTooLarge cmd, _, w => some ((), w.log (.tooLarge cmd))
  | .sysConfGetLong key, _, w => some (w.conf.getLong key, w)
  | .sysConfSetString key v, _, w => some ((), w.setConf key v)
  | .swSystemSetProductName _, .status s, w => some (s, w)
  | .swSystemSetProductNameCheck _, .status s, w => some (s, w)
  | .swVideoCtrlGetResolution, .ints a b, w => some ((a, b), w)
  | .swVideoCtrlSetResolution _ _, .int r, w => some (r, w)
  | _, _, _ => none

/-- The operations that take nothing from the environment. -/
def quiet (P : CldProtocol) : Op P → Option Input
  | .get | .modify _ | .getStatus | .setStatus _ | .getUpdate | .setUpdate _ | .lock | .unlock
  | .close _ | .sleep _ | .logTooLarge _ | .sysConfGetLong _ | .sysConfSetString .. => some .none
  | _ => none

end SwCloud
