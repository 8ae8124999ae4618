import Lpt.Relay.Socket

/-!
# The relay server

A connection is looked at once: what its first `recv` leaves in the buffer says whether it
is a `POST` request, whose body is appended to `/tmp/audio`, or a `GET` request, which is
answered with the contents of that file, or neither.

* `sysRecvPacket`, `sysSendPacket` — the calls of the socket.
* `getClientType` — the request.
* `handlePostRead`, `handleGetWrite` — one piece of the upload and of the download.
* `httpProcessPost`, `httpProcessGet` — one iteration of the two loops.
* `threadClientWorker` — what is done before the loops.

What is not defined in C, here a write before the beginning of an array, has no result.
-/

namespace HttpRelay

open CLib

namespace Server

/-- `MAXLINE`. -/
abbrev maxLine : ℕ := 4096

/-- The lengths of the buffers are values of an `int`. -/
theorem maxLine_succ_lt : maxLine + 1 < 2147483648 := by decide

/-- `MAXSUB`. -/
abbrev maxSub : ℕ := 4096

/-- `PKT_SIZE`. -/
abbrev pktSize : ℕ := 456

/-- `CLIENT_TYPE`. -/
inductive ClientType where
  /-- Undetermined. -/
  | unknown
  /-- A POST request. -/
  | post
  /-- A GET request. -/
  | get
  deriving DecidableEq

/-! ## The socket -/

/-- `sys_recv_packet`: its result, and the memory from `recvline` on.  A single byte has
the same result as an operation that would block. -/
def sysRecvPacket (recvline : Frame (maxLine + 1)) : Recv → ℤ × List UInt8
  | .wouldBlock => (1, recvline.mem)
  | .error => (-1, recvline.mem)
  | .closed => (-2, recvline.mem)
  | .data bs => (bs.length, recvline.stored bs)

/-- `sys_send_packet`: its result, and the bytes that have been sent. -/
def sysSendPacket (buf : List UInt8) (es : List SendEv) : Option (ℤ × List UInt8) :=
  (sendLoop buf es).map fun r => (if r.2 = true then -1 else buf.length, r.1)

/-! ## The request -/

/-- What a POST request begins with. -/
def postLine : List UInt8 := text "POST /setaudio"

/-- What a GET request begins with. -/
def getLine : List UInt8 := text "GET /getaudio"

/-- `_get_client_type`, of a text. -/
def clientType (recvline : List UInt8) : ClientType :=
  if startsWith recvline 0 postLine = true then .post
  else if startsWith recvline 0 getLine = true then .get
  else .unknown

/-- `get_client_type`.  After any result but an error the buffer is looked at, whether or
not something has been received. -/
def getClientType (recvline : Frame (maxLine + 1)) (r : Recv) : ClientType :=
  let (ret, mem) := sysRecvPacket recvline r
  if ret = -1 then .unknown else clientType mem

/-- The answer of `http_send_404`. -/
def notFound : CStr :=
  (CStr.lit "HTTP/1.0 404 Not Found\r\n" ++ CStr.lit "Server: relay server/0.1\r\n" ++
    CStr.lit "Connent-Type: text/html\r\n" ++ CStr.lit "Connection: keep-alive\r\n\r\n" ++
    CStr.lit "<html><title>404 Not Found</title>" ++
    CStr.lit "<body><center><h1>404 Not Found</h1></center>" ++
    CStr.lit "<p>The requested URL was not found.</p><hr>" ++
    CStr.lit "<center>relay server/0.1</center><hr></body></html>").take (maxSub - 1)

/-- The answer of `http_send_200`. -/
def okAnswer : CStr :=
  (CStr.lit "HTTP/1.0 200 OK\r\n" ++ CStr.lit "Server: relay server/0.1\r\n" ++
    CStr.lit "Connection: keep-alive\r\n\r\n").take (maxSub - 1)

/-- The answer of `http_send_ah`. -/
def audioHead : CStr :=
  (CStr.lit "HTTP/1.0 200 OK\r\n" ++ CStr.lit "Server: relay server/0.1\r\n" ++
    CStr.lit "Content-Type: audio/x-wav\r\n" ++ CStr.lit "Cache-Control: no-cache\r\n" ++
    CStr.lit "Pragma: no-cache\r\n" ++ CStr.lit "Conntent-Length: 115200000\r\n" ++
    CStr.lit "Connection: close\r\n\r\n").take (maxSub - 1)

/-- The answer to a request. -/
def ClientType.answer : ClientType → CStr
  | .unknown => notFound
  | .post => okAnswer
  | .get => audioHead

/-- `thread_client_worker` up to the loop of the request: the type of the client, and what
it has been sent.  The result of the sending is not looked at. -/
def threadClientWorker (recvline : Frame (maxLine + 1)) (r : Recv) (es : List SendEv) :
    Option (ClientType × List UInt8) :=
  let type := getClientType recvline r
  (sysSendPacket type.answer.bytes es).map fun sent => (type, sent.2)

/-! ## The upload -/

/-- `handle_post_read`: what is appended to the file.  The buffer is ended at the place
the result of `sys_recv_packet` gives, which is before its beginning for -1 and -2. -/
def handlePostRead (recvline : Frame (maxLine + 1)) (r : Recv) : Option (List UInt8) :=
  let (ret, mem) := sysRecvPacket recvline r
  if ret < 0 then none else some (CStr.read (store mem ret.toNat [0])).bytes

/-- What an iteration of the loop of `http_process_post` is given. -/
structure PostRound where
  /-- The result of `select`. -/
  select : ℤ
  readable : Bool
  /-- For `handle_post_read`. -/
  recvline : Frame (maxLine + 1)
  recv : Recv

/-- `handle_post_read` is called. -/
def PostRound.Reads (c : PostRound) : Prop := 0 ≤ c.select ∧ c.readable = true

instance (c : PostRound) : Decidable c.Reads := inferInstanceAs (Decidable (_ ∧ _))

/-- One iteration of the loop of `http_process_post`: whether it goes on, and what has been
appended to the file.  `handle_post_read` always returns 0. -/
def httpProcessPost (c : PostRound) : Option (Bool × List UInt8) :=
  if c.select < 0 then some (false, [])
  else if c.readable = true then
    (handlePostRead c.recvline c.recv).map fun out => (true, out)
  else some (true, [])

/-! ## The download -/

/-- A file that is open for reading, while others append to it. -/
structure AudioFile where
  content : List UInt8
  /-- The bytes that have been read. -/
  pos : ℕ
  /-- The end-of-file mark. -/
  eof : Bool
  deriving DecidableEq

/-- `fread(buf, 1, n, file)`: the bytes it stores.  It sets the mark if there are fewer. -/
def AudioFile.fread (f : AudioFile) (n : ℕ) : List UInt8 × AudioFile :=
  let bs := (f.content.drop f.pos).take n
  (bs, ⟨f.content, f.pos + bs.length, f.eof || decide (bs.length < n)⟩)

/-- `handle_get_write`: what is passed to `sys_send_packet`, and the file afterwards. -/
def handleGetWrite (sendline : Frame (maxLine + 1)) (f : AudioFile) :
    Option (List UInt8) × AudioFile :=
  if f.eof = true then (none, f)
  else
    let (bs, f') := f.fread pktSize
    (some (CStr.read (sendline.stored bs)).bytes, f')

/-- What an iteration of the loop of `http_process_get` is given. -/
structure GetRound where
  /-- The result of `select`. -/
  select : ℤ
  writable : Bool
  /-- For `handle_get_write`. -/
  sendline : Frame (maxLine + 1)
  /-- For `sys_send_packet`. -/
  sends : List SendEv

/-- `handle_get_write` is called. -/
def GetRound.Writes (c : GetRound) : Prop := 0 ≤ c.select ∧ c.writable = true

instance (c : GetRound) : Decidable c.Writes := inferInstanceAs (Decidable (_ ∧ _))

/-- One iteration of the loop of `http_process_get`: whether it goes on, what has been
passed to `sys_send_packet`, and the file.  `handle_get_write` always returns 0. -/
def httpProcessGet (c : GetRound) (f : AudioFile) : Option (Bool × List UInt8 × AudioFile) :=
  if c.select < 0 then some (false, [], f)
  else if c.writable = true then
    match handleGetWrite c.sendline f with
    | (none, f') => some (true, [], f')
    | (some buf, f') => (sysSendPacket buf c.sends).map fun _ => (true, buf, f')
  else some (true, [], f)

end Server

end HttpRelay
