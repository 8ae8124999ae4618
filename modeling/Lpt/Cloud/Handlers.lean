import Lpt.Cloud.Daemon

/-!
# The message handlers and the start of the module

The handlers store what another module announces, and mark the device information
as changed; all of them return at once unless the status is `CONNECTED`.  The
address announced by UPnP is one text, which `msg_upnp_change` and `cloud_start`
take apart in the same way.
-/

namespace SwCloud

open CLib Effect

variable {P : CldProtocol}

/-! ## What is announced -/

/-- The product name. -/
def sysnameInfo (name : CStr) (d : DevInfo P) : DevInfo P := { d with desc := .snprintf name }

/-- The password of the administrator. -/
def passwordInfo (password : CStr) (d : DevInfo P) : DevInfo P :=
  { d with password := .snprintf password }

/-- The address in `buf`: `ip:port` or `null`. -/
def upnpInfo (buf : List UInt8) (d : DevInfo P) : DevInfo P :=
  match strchr buf 0 58 with
  | some port =>
      let buf := store buf port [0]
      { d with
        eip := .snprintf (CStr.read buf), eport := .snprintf (CStr.read (buf.drop (port + 1))) }
  | none => { d with eip := .snprintf (CStr.lit "null"), eport := .snprintf (CStr.lit "null") }

/-- The buffer of `msg_upnp_change`, of the size of `eip` and `eport` together, after the
text `arg` has been put into it. -/
def upnpBuf (arg : CStr) : List UInt8 := (arg.take (16 + 8 - 1)).bytes ++ [0]

/-! ## The handlers -/

/-- The test all handlers begin with. -/
def whenConnected (arg : Option CStr) (body : CStr → CloudM P Unit) : CloudM P Unit :=
  match arg with
  | none => return ()
  | some arg => do
      let status ← cloudGetStatus
      if status ≠ .connected then return () else body arg

/-- `cloud.update = 1` under the lock. -/
def markUpdate : CloudM P Unit := do
  lock
  setUpdate true
  unlock

/-- `msg_sysname_change`. -/
def msgSysnameChange (arg : Option CStr) : CloudM P Unit :=
  whenConnected arg fun arg => do
    modifyCloud fun c => { c with devinfo := sysnameInfo arg c.devinfo }
    markUpdate

/-- `msg_network_change`. -/
def msgNetworkChange (arg : Option CStr) : CloudM P Unit :=
  whenConnected arg fun _ => do
    markUpdate
    cloudSetStatus .restart

/-- `msg_password_change`. -/
def msgPasswordChange (arg : Option CStr) : CloudM P Unit :=
  whenConnected arg fun arg => do
    modifyCloud fun c => { c with devinfo := passwordInfo arg c.devinfo }
    markUpdate

/-- `msg_upnp_change`. -/
def msgUpnpChange (arg : Option CStr) : CloudM P Unit :=
  whenConnected arg fun arg => do
    let buf := upnpBuf arg
    lock
    modifyCloud fun c => { c with devinfo := upnpInfo buf c.devinfo }
    setUpdate true
    unlock

/-! ## The start of the module -/

/-- `cloud_init`: the struct after the configuration has been loaded. -/
def cloudInit (f : Conf P) : Cloud P where
  retryWait := toInt32 (f.getLong .retryWait * 1000)
  retryMax := toInt32 (f.getLong .retryMax)
  devinfo := ⟨.zero, .zero, .zero, .zero, .zero, .zero, .zero⟩
  account := f.account
  password := f.password
  reachable := .no
  binded := f.account.str.bytes.headD 0 ≠ 0
  update := false
  status := .init
  fd := -1
  waits := 0
  retries := 0

/-- What `cloud_start` asks other modules for. -/
structure SysInfo (P : CldProtocol) where
  netconfWireMac : Field P.cldDevidLen
  systemProductName : Field P.cloudNameLen
  systemProductModel : Field P.cloudNameLen
  umDefaultAdminName : Field P.cloudNameLen
  umDefaultAdminPassword : Field P.cloudNameLen
  /-- The answer to `MSG_UPNP_INFO_STREAM_SERVER_GET`. -/
  upnpAddr : CStr
  deriving DecidableEq

/-- `cloud_start`, up to the start of the daemon. -/
def cloudStart (s : SysInfo P) (c : Cloud P) : Cloud P :=
  let d : DevInfo P :=
    { c.devinfo with
      id := s.netconfWireMac, desc := s.systemProductName, model := s.systemProductModel,
      admin := s.umDefaultAdminName, password := s.umDefaultAdminPassword }
  { c with devinfo := upnpInfo (s.upnpAddr.bytes ++ [0]) d }

/-! ## Their effects -/

namespace World

/-- The world after a change of the device information. -/
def notified (w : World P) (f : DevInfo P → DevInfo P) : World P :=
  w.modify fun c => { c with devinfo := f c.devinfo, update := true }

/-- The world after a change of the network. -/
def restarted (w : World P) : World P :=
  w.modify fun c => { c with update := true, status := .restart }

@[simp] theorem cloud_notified (w : World P) (f : DevInfo P → DevInfo P) :
    (w.notified f).cloud = { w.cloud with devinfo := f w.cloud.devinfo, update := true } := rfl
@[simp] theorem conf_notified (w : World P) (f : DevInfo P → DevInfo P) :
    (w.notified f).conf = w.conf := rfl
@[simp] theorem sockets_notified (w : World P) (f : DevInfo P → DevInfo P) :
    (w.notified f).sockets = w.sockets := rfl
@[simp] theorem trace_notified (w : World P) (f : DevInfo P → DevInfo P) :
    (w.notified f).trace = w.trace := rfl
@[simp] theorem cloud_restarted (w : World P) :
    w.restarted.cloud = { w.cloud with update := true, status := .restart } := rfl
@[simp] theorem conf_restarted (w : World P) : w.restarted.conf = w.conf := rfl
@[simp] theorem sockets_restarted (w : World P) : w.restarted.sockets = w.sockets := rfl
@[simp] theorem trace_restarted (w : World P) : w.restarted.trace = w.trace := rfl

/-- The world after a handler: only a message with an argument that arrives while the
status is `CONNECTED` has the effect `f`. -/
def delivered (w : World P) (arg : Option CStr) (f : CStr → World P → World P) : World P :=
  match arg with
  | none => w
  | some arg => if w.cloud.status = .connected then f arg w else w

end World

section Lemmas

variable {w w' : World P} {arg : Option CStr} {u : Unit}

@[simp] theorem runs_markUpdate :
    Runs markUpdate w u w' ↔ w' = w.modify fun c => { c with update := true } := by
  simp [markUpdate]

/-- **What a handler does**, for any body with one outcome. -/
theorem runs_whenConnected {body : CStr → CloudM P Unit} {f : CStr → World P → World P}
    (hbody : ∀ arg u w', Runs (body arg) w u w' ↔ w' = f arg w) :
    Runs (whenConnected arg body) w u w' ↔ w' = w.delivered arg f := by
  cases arg with
  | none => simp [whenConnected, World.delivered]
  | some arg =>
    simp only [whenConnected, World.delivered, runs_bind, runs_cloudGetStatus, runs_ite, runs_pure]
    by_cases hs : w.cloud.status = .connected
    · simpa [hs] using hbody arg u w'
    · simp [hs]

theorem runs_msgSysnameChange : Runs (msgSysnameChange arg) w u w' ↔
    w' = w.delivered arg fun arg w => w.notified (sysnameInfo arg) :=
  runs_whenConnected fun arg u w' => by simp [World.notified, World.modify]

theorem runs_msgNetworkChange : Runs (msgNetworkChange arg) w u w' ↔
    w' = w.delivered arg fun _ w => w.restarted :=
  runs_whenConnected fun arg u w' => by simp [World.restarted, World.modify]

theorem runs_msgPasswordChange : Runs (msgPasswordChange arg) w u w' ↔
    w' = w.delivered arg fun arg w => w.notified (passwordInfo arg) :=
  runs_whenConnected fun arg u w' => by simp [World.notified, World.modify]

theorem runs_msgUpnpChange : Runs (msgUpnpChange arg) w u w' ↔
    w' = w.delivered arg fun arg w => w.notified (upnpInfo (upnpBuf arg)) :=
  runs_whenConnected fun arg u w' => by simp [World.notified, World.modify]

end Lemmas

end SwCloud
