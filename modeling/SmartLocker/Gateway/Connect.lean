import Mathlib.Data.List.Infix

/-!
# Opening the serial port

Model of `SerialManager._connect`, `_is_port_valid` and `find_arduino_port` on a host whose ports do
not change meanwhile: what `comports()` lists, which paths exist and which of them open.

`_connect` calls itself after it has set `self.port` to the port it detected.  `Manager.rank` is the
measure of that recursion: it is zero once `self.port` is the detected port.  `connect_spec` says
that a call opens a port at most `rank + 1` times and then is connected on `self.port` or has raised.

`upper` and `lower` are those of ASCII: no other letter has one of `AUTO` as its capital, and none
turns into a keyword of `find_arduino_port`.
-/

set_option autoImplicit false

namespace SmartLocker.Gateway.Connect

/-! ## The host -/

/-- A port as `serial.tools.list_ports` describes it. -/
structure ListPortInfo where
  device : String
  description : Option String
  hwid : Option String
  deriving DecidableEq, Repr

/-- What the calls of the operating system return. -/
structure Host where
  /-- `comports()`, `none` when it raises. -/
  comports : Option (List ListPortInfo)
  /-- `os.path.exists`. -/
  pathExists : String → Bool
  /-- `serial.Serial(path)` does not raise. -/
  opens : String → Bool
  /-- `reset_input_buffer()` on the open port does not raise. -/
  resets : String → Bool

def upper (s : String) : List Char := s.toList.map Char.toUpper

def lower (s : String) : List Char := s.toList.map Char.toLower

/-- `k in s`. -/
def isIn (k : String) (s : List Char) : Bool := decide (k.toList <:+: s)

/-! ## `find_arduino_port` -/

def keywords : List String :=
  ["arduino", "ch34x", "ch340", "cp210", "ft232", "usb-serial", "usb serial"]

def hasKeyword (p : ListPortInfo) : Bool :=
  let desc := lower (p.description.getD "")
  let hwid := lower (p.hwid.getD "")
  keywords.any (isIn · desc) || keywords.any (isIn · hwid)

def hasUsbName (p : ListPortInfo) : Bool :=
  isIn "ttyusb" (lower p.device) || isIn "ttyacm" (lower p.device)

def findArduinoPort (host : Host) : Option String :=
  match host.comports with
  | none => none
  | some ports =>
    match ports.find? hasKeyword with
    | some p => some p.device
    | none =>
      match ports.find? hasUsbName with
      | some p => some p.device
      | none => ports.head?.map ListPortInfo.device

/-- `detected_port` where the code asks `if detected_port`. -/
def detected (host : Host) : Option String := (findArduinoPort host).filter (· ≠ "")

theorem detected_eq_some {host : Host} {d : String} :
    detected host = some d ↔ findArduinoPort host = some d ∧ d ≠ "" := by
  simp [detected, Option.filter_eq_some_iff]

/-! ## `_connect` -/

/-- The fields that `_connect` uses.  `ser` is the port that `_ser` is open on; `attempts` are the
arguments of `serial.Serial` so far. -/
structure Manager where
  port : Option String
  ser : Option String
  listening : Bool
  attempts : List String
  deriving DecidableEq, Repr

/-- A manager before its first call. -/
def Manager.init (port : Option String) : Manager := ⟨port, none, false, []⟩

inductive ConnectError where
  /-- `No serial port specified and auto-detection failed.` -/
  | noPort
  /-- The exception of the attempt to open this port. -/
  | failed (port : String)
  deriving DecidableEq, Repr

def isPortValid (host : Host) (path : String) : Bool := host.pathExists path

/-- `current_port` and the manager, after the first half of `_connect`. -/
def choosePort (host : Host) (m : Manager) : Except ConnectError (String × Manager) :=
  match m.port with
  | none =>
    match detected host with
    | some d => .ok (d, { m with port := some d })
    | none => .error .noPort
  | some current =>
    if current = "" ∨ upper current = upper "AUTO" ∨ isPortValid host current = false then
      match detected host with
      | some d => .ok (d, { m with port := some d })
      | none => if current = "" then .error .noPort else .ok (current, m)
    else .ok (current, m)

/-- The body of the `try`, and whether it ended without an exception. -/
def openPort (host : Host) (m : Manager) (current : String) : Manager × Bool :=
  let m := { m with attempts := m.attempts ++ [current] }
  if host.opens current then
    let m := { m with ser := some current }
    if host.resets current then ({ m with listening := true }, true) else (m, false)
  else (m, false)

/-- The port that the `except` block tries next, if any. -/
def retryPort (host : Host) (m : Manager) (current : String) : Option String :=
  if m.port = some current ∧ upper current ≠ upper "AUTO" then
    (detected host).filter (· ≠ current)
  else none

/-- How often `_connect` can still change the port and call itself. -/
def Manager.rank (host : Host) (m : Manager) : Nat := if m.port = detected host then 0 else 1

theorem choosePort_ok {host : Host} {m m' : Manager} {current : String}
    (h : choosePort host m = .ok (current, m')) :
    m' = { m with port := some current } ∧ (m.port = some current ∨ detected host = some current) := by
  unfold choosePort at h
  split at h
  · split at h
    · rename_i d hd
      cases h
      exact ⟨rfl, Or.inr hd⟩
    · cases h
  · rename_i p hp
    have hsame : m = { m with port := some p } := by rw [← hp]
    split at h
    · split at h
      · rename_i d hd
        cases h
        exact ⟨rfl, Or.inr hd⟩
      · split at h
        · cases h
        · cases h
          exact ⟨hsame, Or.inl hp⟩
    · cases h
      exact ⟨hsame, Or.inl hp⟩

theorem openPort_port (host : Host) (m : Manager) (current : String) :
    (openPort host m current).1.port = m.port := by
  unfold openPort
  simp only
  split
  · split <;> rfl
  · rfl

@[simp] theorem openPort_attempts (host : Host) (m : Manager) (current : String) :
    (openPort host m current).1.attempts = m.attempts ++ [current] := by
  unfold openPort
  simp only
  split
  · split <;> rfl
  · rfl

theorem openPort_true {host : Host} {m : Manager} {current : String}
    (h : (openPort host m current).2 = true) :
    host.opens current = true ∧ (openPort host m current).1.ser = some current ∧
      (openPort host m current).1.listening = true := by
  unfold openPort at h ⊢
  simp only at h ⊢
  split at h
  · rename_i hopens
    split at h
    · rename_i hresets
      simp [hopens, hresets]
    · cases h
  · cases h

theorem retryPort_some {host : Host} {m : Manager} {current d : String}
    (h : retryPort host m current = some d) :
    m.port = some current ∧ detected host = some d ∧ d ≠ current := by
  unfold retryPort at h
  split at h
  · rename_i hport
    obtain ⟨hd, hne⟩ := Option.filter_eq_some_iff.mp h
    exact ⟨hport.1, hd, by simpa using hne⟩
  · cases h

/-- The call that `_connect` makes of itself is one on the detected port, and it was not on that
port before. -/
theorem rank_retry {host : Host} {m m' : Manager} {current d : String}
    (hchoose : choosePort host m = .ok (current, m'))
    (hretry : retryPort host (openPort host m' current).1 current = some d) :
    Manager.rank host { (openPort host m' current).1 with port := some d } < m.rank host := by
  obtain ⟨-, hd, hne⟩ := retryPort_some hretry
  have hport : m.port ≠ detected host := by
    rcases (choosePort_ok hchoose).2 with hp | hp
    · rw [hp, hd]
      exact fun h => hne (Option.some.inj h).symm
    · rw [hd] at hp
      exact absurd (Option.some.inj hp) hne
  simp [Manager.rank, hd.symm, if_neg hport]

def connect (host : Host) (m : Manager) : Manager × Except ConnectError Unit :=
  match hchoose : choosePort host m with
  | .error e => (m, .error e)
  | .ok (current, m') =>
    let r := openPort host m' current
    if r.2 then (r.1, .ok ())
    else
      match hretry : retryPort host r.1 current with
      | some d =>
        have := rank_retry hchoose hretry
        connect host { r.1 with port := some d }
      | none => (r.1, .error (.failed current))
termination_by m.rank host

/-! ## The bound -/

/-- What a call of `_connect` has done when it ends: it tried the ports `tried`, and it has raised or
is connected on `self.port`, the last of them, which was its port or is the detected one. -/
structure Ended (host : Host) (m : Manager) (r : Manager × Except ConnectError Unit)
    (tried : List String) : Prop where
  attempts : r.1.attempts = m.attempts ++ tried
  bounded : tried.length ≤ m.rank host + 1
  settled : (∃ e, r.2 = .error e) ∨
    (r.2 = .ok () ∧ ∃ p, r.1.port = some p ∧ r.1.ser = some p ∧ r.1.listening = true ∧
      tried.getLast? = some p ∧ host.opens p = true ∧ (m.port = some p ∨ detected host = some p))

theorem connect_spec (host : Host) (m : Manager) : ∃ tried, Ended host m (connect host m) tried := by
  fun_induction connect host m with
  | case1 m e hchoose => exact ⟨[], by simp, by simp, Or.inl ⟨e, rfl⟩⟩
  | case2 m current m' hchoose r hopen =>
    obtain ⟨rfl, hport⟩ := choosePort_ok hchoose
    obtain ⟨hopens, hser, hlistening⟩ := openPort_true hopen
    exact ⟨[current], openPort_attempts host _ current, by simp,
      Or.inr ⟨rfl, current, openPort_port host _ current, hser, hlistening, rfl, hopens, hport⟩⟩
  | case3 m current m' hchoose r hopen d hretry hrank ih =>
    obtain ⟨tried, hattempts, hbounded, hsettled⟩ := ih
    obtain ⟨rfl, -⟩ := choosePort_ok hchoose
    obtain ⟨-, hd, -⟩ := retryPort_some hretry
    refine ⟨current :: tried, ?_, ?_, hsettled.imp_right ?_⟩
    · rw [hattempts]
      simp [r]
    · rw [List.length_cons]
      exact Nat.succ_le_succ (hbounded.trans hrank)
    · rintro ⟨hok, p, hp, hser, hlistening, hlast, hopens, hfrom⟩
      refine ⟨hok, p, hp, hser, hlistening, ?_, hopens, Or.inr ?_⟩
      · rw [List.getLast?_cons, hlast]
        rfl
      · exact hfrom.elim (fun h => hd.trans h) id
  | case4 m current m' hchoose r hopen hretry =>
    obtain ⟨rfl, -⟩ := choosePort_ok hchoose
    exact ⟨[current], openPort_attempts host _ current, by simp, Or.inl ⟨_, rfl⟩⟩

/-- **Connecting terminates**: whatever port is configured and whatever the host has, a call of
`_connect` opens a port at most twice, and then it has raised or is connected on `self.port`, which is
the configured port or the one that `find_arduino_port` returns. -/
theorem connect_terminates (host : Host) (m : Manager) :
    ∃ tried, (connect host m).1.attempts = m.attempts ++ tried ∧ tried.length ≤ 2 ∧
      ((∃ e, (connect host m).2 = .error e) ∨
        ((connect host m).2 = .ok () ∧
          ∃ p, (connect host m).1.port = some p ∧ (connect host m).1.ser = some p ∧
            tried.getLast? = some p ∧ host.opens p = true ∧
            (m.port = some p ∨ findArduinoPort host = some p))) := by
  obtain ⟨tried, hattempts, hbounded, hsettled⟩ := connect_spec host m
  have hrank : m.rank host ≤ 1 := by
    unfold Manager.rank
    split <;> decide
  refine ⟨tried, hattempts, hbounded.trans (Nat.succ_le_succ hrank), hsettled.imp_right ?_⟩
  rintro ⟨hok, p, hport, hser, -, hlast, hopens, hfrom⟩
  exact ⟨hok, p, hport, hser, hlast, hopens,
    hfrom.imp_right fun h => (detected_eq_some.mp h).1⟩

/-- The configured port does not open; the adapter found among the listed ports does. -/
example :
    connect ⟨some [⟨"/dev/ttyS0", none, none⟩, ⟨"/dev/ttyUSB1", some "CH340", none⟩],
        fun _ => true, fun p => p == "/dev/ttyUSB1", fun _ => true⟩ (.init (some "/dev/ttyUSB0")) =
      (⟨some "/dev/ttyUSB1", some "/dev/ttyUSB1", true, ["/dev/ttyUSB0", "/dev/ttyUSB1"]⟩, .ok ()) := by
  decide +kernel

end SmartLocker.Gateway.Connect
