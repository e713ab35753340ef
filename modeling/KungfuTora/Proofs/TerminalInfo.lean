import KungfuTora.Misc.Fields
import KungfuTora.TraceInfo

/-!
# Reading the terminal information

`Terminal.parse` reads back the format that `trace_info.h` lists: parts between semicolons, each
behind its tag. What the host answered comes back as long as nothing in it contains a
semicolon. What the interfaces give never does; a line from a command may.
-/

namespace KungfuTora

/-- What the text tells: a member that is not known is `none`. -/
structure Terminal where
  pcType : CStr
  iip : Option CStr
  iport : Option CStr
  lip : Option CStr
  mac : Option CStr
  hd : Option CStr
  ext : CStr
  deriving DecidableEq, Repr

namespace Terminal

def tags : List CStr :=
  [[], cstr "IIP=", cstr "IPORT=", cstr "LIP=", cstr "MAC=", cstr "HD=", cstr "@"]

def known (value : CStr) : Option CStr := if value = cstr "NA" then none else some value

def ofValues : List CStr → Option Terminal
  | [pcType, iip, iport, lip, mac, hd, ext] =>
    some ⟨pcType, known iip, known iport, known lip, known mac, known hd, ext⟩
  | _ => none

def parse (text : CStr) : Option Terminal := (splitFields 59 tags text).bind ofValues

/-- What can be told of a member: nothing if it is empty, or if it is itself the text `NA`. -/
def told (value : CStr) : Option CStr := if value = [] then none else known value

theorem known_orNA (value : CStr) : known (TraceInfo.orNA value) = told value := by
  unfold told TraceInfo.orNA
  split
  · rfl
  · rfl

end Terminal

namespace TraceInfo

open Terminal

/-- The values behind the tags. -/
def values (info : TraceInfo) : List CStr :=
  [info.pcType, orNA info.iip, orNA info.iport, orNA info.lip, orNA info.mac, orNA info.hdSn,
    info.extInfo]

theorem getTraceInfo_eq (info : TraceInfo) :
    info.getTraceInfo = joinFields 59 tags info.values := by
  simp [getTraceInfo, joinFields, tags, values, cstr]

theorem not_mem_orNA (value : CStr) : 59 ∉ orNA value ↔ 59 ∉ value := by
  unfold orNA
  split
  · rename_i h
    rw [h]
    decide
  · rfl

/-- What is read back from the text of any members. -/
theorem parse_getTraceInfo_iff (info : TraceInfo) :
    parse info.getTraceInfo =
        some ⟨info.pcType, told info.iip, told info.iport, told info.lip, told info.mac,
          told info.hdSn, info.extInfo⟩ ↔
      ∀ value ∈ [info.pcType, info.iip, info.iport, info.lip, info.mac, info.hdSn, info.extInfo],
        59 ∉ value := by
  have htags : ∀ tag ∈ tags, (59 : UInt8) ∉ tag := by decide
  have hvalues : (∀ value ∈ info.values, 59 ∉ value) ↔
      ∀ value ∈ [info.pcType, info.iip, info.iport, info.lip, info.mac, info.hdSn, info.extInfo],
        59 ∉ value := by
    simp only [values, List.forall_mem_cons, not_mem_orNA]
  have hlength : info.values.length = tags.length := rfl
  rw [← hvalues, getTraceInfo_eq]
  constructor
  · intro hread
    refine (splitFields_joinFields (by decide) htags hlength).mp ?_
    cases hsplit : splitFields 59 tags (joinFields 59 tags info.values) with
    | none => simp [parse, hsplit] at hread
    | some _ => rfl
  · intro hnone
    unfold parse
    rw [(splitFields_eq_some_iff (by decide) htags).mpr ⟨hlength, hnone, rfl⟩]
    simp only [values, Option.bind_some, ofValues, known_orNA]

end TraceInfo

/-! ## What the host answers -/

section Host

open TraceInfo

theorem not_mem_inetNtoa (addr : InAddr) : 59 ∉ inetNtoa addr := by
  intro h
  rcases mem_intercalate h with h | ⟨part, hpart, h⟩
  · simp at h
  · obtain ⟨b, -, rfl⟩ := List.mem_map.mp hpart
    obtain ⟨c, hc, hcode⟩ := List.mem_map.mp h
    have hdigit := Nat.isDigit_of_mem_toDigits (by decide) (by decide) hc
    simp only [Char.isDigit, Bool.and_eq_true, decide_eq_true_eq] at hdigit
    obtain ⟨hlow, hhigh⟩ := hdigit
    have hnat : c.toNat % 256 = 59 := congrArg UInt8.toNat hcode
    have hhigh : c.toNat ≤ 57 := hhigh
    omega

theorem hexDigit_ne (n : UInt8) (h : n < 16) : hexDigit n ≠ 59 := by
  unfold hexDigit
  split
  · rename_i hlow
    intro heq
    have hlow : n.toNat < 10 := hlow
    have hnat : (48 + n.toNat) % 256 = 59 := congrArg UInt8.toNat heq
    omega
  · intro heq
    have h : n.toNat < 16 := h
    have hnat : (87 + n.toNat) % 256 = 59 := congrArg UInt8.toNat heq
    omega

theorem not_mem_formatHwAddr (addr : HwAddr) : 59 ∉ formatHwAddr addr := by
  intro h
  obtain ⟨b, -, h⟩ := List.mem_flatMap.mp h
  have hb := b.toNat_lt
  have hhigh : b / 16 < 16 := by
    show (b / 16).toNat < 16
    rw [UInt8.toNat_div]
    show b.toNat / 16 < 16
    omega
  have hlow : b % 16 < 16 := by
    show (b % 16).toNat < 16
    rw [UInt8.toNat_mod]
    show b.toNat % 16 < 16
    omega
  rcases List.mem_cons.mp h with h | h
  · exact hexDigit_ne _ hhigh h.symm
  · exact hexDigit_ne _ hlow (List.mem_singleton.mp h).symm

/-- The members that are lines of commands. -/
def Host.commandLines (host : Host) : List CStr :=
  (if host.eth0Addr = none ∧ host.eno1Addr = none then [getLocalIp host] else []) ++
    (if host.eth0HwAddr = none ∧ host.eno1HwAddr = none then [getMac host] else []) ++
      [getHdSn host]

theorem not_mem_getLocalIp {host : Host} (h : ¬(host.eth0Addr = none ∧ host.eno1Addr = none)) :
    59 ∉ getLocalIp host := by
  unfold getLocalIp
  split
  · simp
  · cases heth : host.eth0Addr with
    | some addr => exact not_mem_inetNtoa addr
    | none =>
      cases heno : host.eno1Addr with
      | some addr => exact not_mem_inetNtoa addr
      | none => exact absurd ⟨heth, heno⟩ h

theorem not_mem_getMac {host : Host} (h : ¬(host.eth0HwAddr = none ∧ host.eno1HwAddr = none)) :
    59 ∉ getMac host := by
  unfold getMac
  split
  · simp
  · cases heth : host.eth0HwAddr with
    | some addr => exact not_mem_formatHwAddr addr
    | none =>
      cases heno : host.eno1HwAddr with
      | some addr => exact not_mem_formatHwAddr addr
      | none => exact absurd ⟨heth, heno⟩ h

end Host

/-- What a login tells of its host can be read back exactly if no line that a command gave,
up to its end and behind the sign of the serial number, contains a semicolon. -/
theorem terminal_info_read_iff (host : Host) :
    Terminal.parse (TraceInfo.ofHost host).getTraceInfo =
        some
          { pcType := cstr "OH"
            iip := none
            iport := none
            lip := Terminal.told (TraceInfo.getLocalIp host)
            mac := Terminal.told (TraceInfo.getMac host)
            hd := Terminal.told (TraceInfo.getHdSn host)
            ext := cstr "Kungfu_2.3" } ↔
      ∀ line ∈ host.commandLines, 59 ∉ line := by
  refine (TraceInfo.parse_getTraceInfo_iff (TraceInfo.ofHost host)).trans ?_
  have hconst : (59 : UInt8) ∉ cstr "OH" ∧ (59 : UInt8) ∉ cstr "Kungfu_2.3" := by decide
  have hlip : (∀ line ∈ if host.eth0Addr = none ∧ host.eno1Addr = none then
      [TraceInfo.getLocalIp host] else [], 59 ∉ line) ↔ 59 ∉ TraceInfo.getLocalIp host := by
    split
    · simp
    · rename_i h
      simp [not_mem_getLocalIp h]
  have hmac : (∀ line ∈ if host.eth0HwAddr = none ∧ host.eno1HwAddr = none then
      [TraceInfo.getMac host] else [], 59 ∉ line) ↔ 59 ∉ TraceInfo.getMac host := by
    split
    · simp
    · rename_i h
      simp [not_mem_getMac h]
  rw [Host.commandLines, List.forall_mem_append, List.forall_mem_append, hlip, hmac]
  simp [TraceInfo.ofHost, hconst, and_assoc]

/-- A disk whose serial number has a semicolon in it. -/
example :
    Terminal.parse (TraceInfo.ofHost
      { datagramSocket := true, streamSocket := false
        eth0Addr := some ⟨#v[10, 0, 0, 7]⟩, eno1Addr := none
        eth0HwAddr := none, eno1HwAddr := none
        hostname := .noContent, wireless := .notOpened
        sda := .line (cstr "E: ID_SERIAL_SHORT=S1;2"), firstDisk := .noContent }).getTraceInfo =
      none := by
  decide

end KungfuTora
