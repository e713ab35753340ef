import KungfuTora.Longfist

/-!
# The terminal information of a login (`trace_info.cpp`)

`TraceInfo` asks the host for its address, its MAC address and the serial number of its
disk, on Linux from the interfaces `eth0` and `eno1` first and from commands otherwise;
`get_trace_info` writes them into the text that `login` sends. A `Host` is what the
operating system answers.
-/

namespace KungfuTora

/-- An IPv4 address in network order. -/
structure InAddr where
  bytes : Vector UInt8 4
  deriving DecidableEq, Repr

/-- The six bytes of `ifr_hwaddr.sa_data` that are read. -/
structure HwAddr where
  bytes : Vector UInt8 6
  deriving DecidableEq, Repr

/-- What `popen` and `fgets` give: no stream, no content, or a line. -/
inductive CmdAnswer where
  | notOpened
  | noContent
  | line (content : CStr)
  deriving DecidableEq, Repr

structure Host where
  /-- Whether the sockets of `get_local_ip` and of `get_mac` are opened. -/
  datagramSocket : Bool
  streamSocket : Bool
  /-- `SIOCGIFADDR` of the two interfaces. -/
  eth0Addr : Option InAddr
  eno1Addr : Option InAddr
  /-- `SIOCGIFHWADDR` of the two interfaces. -/
  eth0HwAddr : Option HwAddr
  eno1HwAddr : Option HwAddr
  /-- `hostname -I | cut -d ' ' -f 1`. -/
  hostname : CmdAnswer
  /-- The address file of the first wireless interface. -/
  wireless : CmdAnswer
  /-- `ID_SERIAL_SHORT` of `/dev/sda`. -/
  sda : CmdAnswer
  /-- `ID_SERIAL_SHORT` of the first disk that `lsblk` lists. -/
  firstDisk : CmdAnswer
  deriving DecidableEq, Repr

/-- `inet_ntoa`. -/
def inetNtoa (addr : InAddr) : CStr :=
  [46].intercalate
    (addr.bytes.toList.map fun b => (Nat.toDigits 10 b.toNat).map fun c => c.toNat.toUInt8)

def hexDigit (n : UInt8) : UInt8 := if n < 10 then 48 + n else 87 + n

/-- `%02x` for each byte. -/
def formatHwAddr (addr : HwAddr) : CStr :=
  addr.bytes.toList.flatMap fun b => [hexDigit (b / 16), hexDigit (b % 16)]

/-- `buf[strcspn(buf, "\n")] = 0`. -/
def cutLine (buf : CStr) : CStr := buf.takeWhile (· ≠ 10)

namespace TraceInfo

/-- The return code, and what is in the buffer that was cleared first. -/
def getInfoFromCmd : CmdAnswer → Int32 × CStr
  | .notOpened => (-1, [])
  | .noContent => (-2, [])
  | .line content => (0, content)

def getLocalIp (host : Host) : CStr :=
  if !host.datagramSocket then []
  else
    match host.eth0Addr with
    | some addr => inetNtoa addr
    | none =>
      match host.eno1Addr with
      | some addr => inetNtoa addr
      | none =>
        let (cmdRet, buf) := getInfoFromCmd host.hostname
        if cmdRet = 0 then cutLine buf else []

def getMac (host : Host) : CStr :=
  if !host.streamSocket then []
  else
    match host.eth0HwAddr with
    | some addr => formatHwAddr addr
    | none =>
      match host.eno1HwAddr with
      | some addr => formatHwAddr addr
      | none =>
        let (cmdRet, buf) := getInfoFromCmd host.wireless
        if cmdRet = 0 then cutLine buf else []

/-- `buf + strcspn(buf, "=") + 1`; the buffer is zero behind a line without the sign. -/
def serialOf (buf : CStr) : CStr := ((cutLine buf).dropWhile (· ≠ 61)).drop 1

def getHdSn (host : Host) : CStr :=
  let (cmdRet, buf) := getInfoFromCmd host.sda
  if cmdRet = -1 then []
  else if cmdRet = -2 then
    let (cmdRet, buf) := getInfoFromCmd host.firstDisk
    if cmdRet ≠ 0 then [] else serialOf buf
  else serialOf buf

end TraceInfo

/-- The members that `get_trace_info` reads. -/
structure TraceInfo where
  pcType : CStr
  lip : CStr
  iip : CStr
  iport : CStr
  mac : CStr
  hdSn : CStr
  extInfo : CStr
  deriving DecidableEq, Repr

namespace TraceInfo

/-- The constructor. `iip_` and `iport_` are assigned nowhere. -/
def ofHost (host : Host) : TraceInfo where
  pcType := cstr "OH"
  lip := getLocalIp host
  iip := []
  iport := []
  mac := getMac host
  hdSn := getHdSn host
  extInfo := cstr "Kungfu_2.3"

/-- What is written for a member. -/
def orNA (value : CStr) : CStr := if value = [] then cstr "NA" else value

def getTraceInfo (info : TraceInfo) : CStr :=
  info.pcType ++ cstr ";" ++
    (cstr "IIP=" ++ orNA info.iip ++ cstr ";") ++
    (cstr "IPORT=" ++ orNA info.iport ++ cstr ";") ++
    (cstr "LIP=" ++ orNA info.lip ++ cstr ";") ++
    (cstr "MAC=" ++ orNA info.mac ++ cstr ";") ++
    (cstr "HD=" ++ orNA info.hdSn ++ cstr ";") ++
    (cstr "@" ++ info.extInfo)

end TraceInfo

end KungfuTora
