import Mathlib
import MessageEngine.Proofs.SettingTexts

/-!
# Settings in layers

A program is configured by the variables of its environment, by a document,
and by defaults, in this order.  `Config.Layered` tells where each setting
comes from, and `Config.Loads` what comes of loading them: a document that
makes no sense, a rule that the settings break together, or the settings.
The parser of documents is a parameter: nothing here depends on which texts
it takes.
-/

namespace MessageEngine

/-! ## What a document states -/

namespace Toml.Section

/-- What a key says, or nothing if it is missing. -/
inductive Says {α : Type} (s : Section) (place : Nat) (key : String)
    (decode : Toml → Option α) : Option α → Prop
  | silent (hkey : s.get? place key = none) : Says s place key decode none
  | gives {v : Toml} {a : α} (hkey : s.get? place key = some v) (hv : decode v = some a) :
      Says s place key decode (some a)

/-- A section under a key; it has no entries if the key is missing. -/
inductive Holds (s : Section) (place : Nat) (key : String) : Section → Prop
  | missing (hkey : s.get? place key = none) : Holds s place key (.named [])
  | given {v : Toml} {sub : Section} (hkey : s.get? place key = some v)
      (hv : v.section? = some sub) : Holds s place key sub

variable {α : Type} {s : Section} {place : Nat} {key : String}

theorem read_eq_some_iff {decode : Toml → Option α} {fallback a : α} :
    s.read place key fallback decode = some a ↔
      ∃ o, s.Says place key decode o ∧ o.getD fallback = a := by
  rw [read]
  constructor
  · split
    · next v hkey => exact fun ha ↦ ⟨some a, .gives hkey ha, rfl⟩
    · next hkey => exact fun ha ↦ ⟨none, .silent hkey, Option.some.inj ha⟩
  · rintro ⟨o, hsays, rfl⟩
    cases hsays with
    | silent hkey => simp [hkey]
    | gives hkey hv => simp [hkey, hv]

/-- A section that is missing is read as one without entries. -/
theorem read_section_eq_some_iff {ofSection? : Section → Option α} {fallback a : α}
    (hfallback : ofSection? (.named []) = some fallback) :
    s.read place key fallback (fun v ↦ v.section?.bind ofSection?) = some a ↔
      ∃ sub, s.Holds place key sub ∧ ofSection? sub = some a := by
  rw [read]
  constructor
  · split
    · next v hkey =>
      intro ha
      obtain ⟨sub, hsub, ha⟩ := Option.bind_eq_some_iff.1 ha
      exact ⟨sub, .given hkey hsub, ha⟩
    · next hkey => exact fun ha ↦ ⟨.named [], .missing hkey, hfallback.trans ha⟩
  · rintro ⟨sub, hsub, ha⟩
    cases hsub with
    | missing hkey => simpa [hkey] using hfallback.symm.trans ha
    | given hkey hv => simp [hkey, hv, ha]

theorem read_option_eq_some_iff {decode : Toml → Option α} {o : Option α} :
    s.read place key none (fun v ↦ (decode v).map some) = some o ↔ s.Says place key decode o := by
  rw [read]
  constructor
  · split
    · next v hkey =>
      intro ho
      obtain ⟨a, ha, rfl⟩ := Option.map_eq_some_iff.1 ho
      exact .gives hkey ha
    · next hkey =>
      rintro ⟨⟩
      exact .silent hkey
  · intro hsays
    cases hsays with
    | silent hkey => simp [hkey]
    | gives hkey hv => simp [hkey, hv]

end Toml.Section

/-- What a document states about the protocol. -/
structure StatedProtocol where
  bufferLength : Option Nat := none
  maxRate : Option UInt32 := none
  maxPayload : Option Nat := none
  strictVersions : Option Bool := none
  compression : Option Bool := none

/-- The settings that a document states. -/
structure Stated where
  bindAddress : Option IpAddress := none
  tcpPort : Option UInt16 := none
  udpPort : Option UInt16 := none
  webSocketPort : Option UInt16 := none
  protocol : StatedProtocol := {}
  connectionsPerQueue : Option Nat := none
  tls : Option TlsConfig := none
  debug : Option Bool := none

namespace StatedProtocol

structure Of (s : Toml.Section) (p : StatedProtocol) : Prop where
  bufferLength : s.Says 0 "network_buffer_length" Toml.count? p.bufferLength
  maxRate : s.Says 1 "max_received_messages_per_second"
    (fun v ↦ (v.natBelow? UInt32.size).map UInt32.ofNat) p.maxRate
  maxPayload : s.Says 2 "max_payload_length" Toml.count? p.maxPayload
  strictVersions : s.Says 3 "strict_versions" Toml.bool? p.strictVersions
  compression : s.Says 4 "compression" Toml.bool? p.compression

/-- The settings stated, and defaults for the others. -/
def config (p : StatedProtocol) : ProtocolConfig where
  bufferLength := p.bufferLength.getD 8192
  maxRate := p.maxRate.getD 1000
  maxPayload := p.maxPayload.getD 1048576
  strictVersions := p.strictVersions.getD true
  compression := p.compression.getD false

theorem ofSection?_eq_some_iff {s : Toml.Section} {c : ProtocolConfig} :
    ProtocolConfig.ofSection? s = some c ↔ ∃ p, StatedProtocol.Of s p ∧ p.config = c := by
  simp only [ProtocolConfig.ofSection?, Option.bind_eq_bind, Option.bind_eq_some_iff,
    Option.pure_def, Toml.Section.read_eq_some_iff, Option.some.injEq]
  constructor
  · rintro ⟨_, ⟨bufferLength, hbuffer, rfl⟩, _, ⟨maxRate, hrate, rfl⟩,
      _, ⟨maxPayload, hpayload, rfl⟩, _, ⟨strictVersions, hversions, rfl⟩,
      _, ⟨compression, hcompression, rfl⟩, rfl⟩
    exact ⟨⟨bufferLength, maxRate, maxPayload, strictVersions, compression⟩,
      ⟨hbuffer, hrate, hpayload, hversions, hcompression⟩, rfl⟩
  · rintro ⟨p, ⟨hbuffer, hrate, hpayload, hversions, hcompression⟩, rfl⟩
    exact ⟨_, ⟨_, hbuffer, rfl⟩, _, ⟨_, hrate, rfl⟩, _, ⟨_, hpayload, rfl⟩, _, ⟨_, hversions, rfl⟩,
      _, ⟨_, hcompression, rfl⟩, rfl⟩

theorem ofSection?_nil : ProtocolConfig.ofSection? (.named []) = some {} := rfl

end StatedProtocol

namespace Stated

/-- The settings are those of a document with its sections on the protocol and on queues. -/
structure In (document protocol queue : Toml.Section) (s : Stated) : Prop where
  section_protocol : document.Holds 4 "protocol" protocol
  section_queue : document.Holds 5 "queue" queue
  bindAddress : document.Says 0 "bind_address" (fun v ↦ v.string?.bind IpAddress.ofText?)
    s.bindAddress
  tcpPort : document.Says 1 "tcp_port" Toml.port? s.tcpPort
  udpPort : document.Says 2 "udp_port" Toml.port? s.udpPort
  webSocketPort : document.Says 3 "websocket_port" Toml.port? s.webSocketPort
  protocol : StatedProtocol.Of protocol s.protocol
  connectionsPerQueue : queue.Says 0 "connections_per_queue" Toml.count? s.connectionsPerQueue
  tls : document.Says 6 "tls" TlsConfig.ofToml? s.tls
  debug : document.Says 7 "debug" Toml.bool? s.debug

/-- The settings are those of a document with these entries. -/
def Of (entries : Toml.Entries) (s : Stated) : Prop :=
  ∃ protocol queue, In (.named entries) protocol queue s

/-- The settings stated in a document that was found under a path, and defaults for the others. -/
def config (s : Stated) (path : String) : Config where
  path := path
  bindAddress := s.bindAddress.getD (.v4 0 0 0 0)
  tcpPort := s.tcpPort.getD 7000
  udpPort := s.udpPort.getD 7001
  webSocketPort := s.webSocketPort.getD 7002
  protocol := s.protocol.config
  queue := ⟨s.connectionsPerQueue.getD 64⟩
  tls := s.tls
  debug := s.debug.getD false

theorem ofEntries?_eq_some_iff {entries : Toml.Entries} {c : Config} :
    Config.ofEntries? entries = some c ↔ ∃ s, Of entries s ∧ s.config "" = c := by
  have hprotocol {s : Toml.Section} {c : ProtocolConfig} :
      s.read 4 "protocol" {} ProtocolConfig.ofToml? = some c ↔
        ∃ sub, s.Holds 4 "protocol" sub ∧ ProtocolConfig.ofSection? sub = some c :=
    Toml.Section.read_section_eq_some_iff StatedProtocol.ofSection?_nil
  have hqueue {s : Toml.Section} {c : QueueConfig} :
      s.read 5 "queue" {} QueueConfig.ofToml? = some c ↔
        ∃ sub, s.Holds 5 "queue" sub ∧
          (sub.read 0 "connections_per_queue" 64 Toml.count?).bind (fun n ↦ some ⟨n⟩) = some c :=
    Toml.Section.read_section_eq_some_iff rfl
  have htls {s : Toml.Section} {o : Option TlsConfig} :
      s.read 6 "tls" none (fun v ↦ (TlsConfig.ofToml? v).map some) = some o ↔
        s.Says 6 "tls" TlsConfig.ofToml? o :=
    Toml.Section.read_option_eq_some_iff
  simp only [Config.ofEntries?, Option.bind_eq_bind, Option.bind_eq_some_iff, Option.pure_def,
    hprotocol, hqueue, htls, StatedProtocol.ofSection?_eq_some_iff, Toml.Section.read_eq_some_iff,
    Option.some.injEq]
  constructor
  · rintro ⟨_, ⟨bindAddress, haddress, rfl⟩, _, ⟨tcpPort, htcp, rfl⟩, _, ⟨udpPort, hudp, rfl⟩,
      _, ⟨webSocketPort, hweb, rfl⟩, _, ⟨sub, hsub, protocol, hprotocol, rfl⟩,
      _, ⟨sub', hsub', _, ⟨perQueue, hperQueue, rfl⟩, rfl⟩, tls, htls, _, ⟨debug, hdebug, rfl⟩, rfl⟩
    exact ⟨⟨bindAddress, tcpPort, udpPort, webSocketPort, protocol, perQueue, tls, debug⟩,
      ⟨sub, sub', hsub, hsub', haddress, htcp, hudp, hweb, hprotocol, hperQueue, htls, hdebug⟩, rfl⟩
  · rintro ⟨s, ⟨_, _, hsub, hsub', haddress, htcp, hudp, hweb, hprotocol, hperQueue, htls,
      hdebug⟩, rfl⟩
    exact ⟨_, ⟨_, haddress, rfl⟩, _, ⟨_, htcp, rfl⟩, _, ⟨_, hudp, rfl⟩, _, ⟨_, hweb, rfl⟩,
      _, ⟨_, hsub, _, hprotocol, rfl⟩, _, ⟨_, hsub', _, ⟨_, hperQueue, rfl⟩, rfl⟩, _, htls,
      _, ⟨_, hdebug, rfl⟩, rfl⟩

end Stated

/-! ## The layers -/

/-- What a setting comes to: what its variable says if the text of it makes sense, else what the
document states, else the default. -/
inductive Setting {α : Type} (text : Option String) (reads : String → α → Prop)
    (stated : Option α) (fallback : α) : α → Prop
  | said {t : String} {a : α} (htext : text = some t) (ha : reads t a) :
      Setting text reads stated fallback a
  | stated {a : α} (hmute : ∀ t, text = some t → ∀ a, ¬ reads t a) (hstated : stated = some a) :
      Setting text reads stated fallback a
  | fallback (hmute : ∀ t, text = some t → ∀ a, ¬ reads t a) (hstated : stated = none) :
      Setting text reads stated fallback fallback

theorem Setting.iff_override {α : Type} {env : Environment} {name : String}
    {decode : String → Option α} {reads : String → α → Prop} {stated : Option α} {fallback a : α}
    (hreads : ∀ t a, decode t = some a ↔ reads t a) :
    Setting (env.get? name) reads stated fallback a ↔
      Config.override env name decode (stated.getD fallback) = a := by
  have hmute : (∀ t, env.get? name = some t → ∀ a, ¬ reads t a) ↔
      (env.get? name).bind decode = none := by
    rw [Option.bind_eq_none_iff]
    simp only [Option.eq_none_iff_forall_ne_some, ne_eq, hreads]
  rw [Config.override]
  constructor
  · intro hsetting
    cases hsetting with
    | said htext ha => simp [htext, (hreads _ _).2 ha]
    | stated hnone hstated => simp [hmute.1 hnone, hstated]
    | fallback hnone hstated => simp [hmute.1 hnone, hstated]
  · rintro rfl
    cases hsaid : (env.get? name).bind decode with
    | some a =>
        obtain ⟨t, htext, ha⟩ := Option.bind_eq_some_iff.1 hsaid
        exact .said htext ((hreads t a).1 ha)
    | none =>
        cases hstated : stated with
        | some a => exact .stated (hmute.2 hsaid) rfl
        | none => exact .fallback (hmute.2 hsaid) rfl

namespace Config

/-- Where each setting of a configuration comes from. -/
structure Layered (env : Environment) (s : Stated) (path : String) (c : Config) : Prop where
  path : c.path = path
  bindAddress : Setting (env.get? "NETFRAME_BIND_ADDRESS") (IpAddress.ofText? · = some ·)
    s.bindAddress (.v4 0 0 0 0) c.bindAddress
  tcpPort : Setting (env.get? "NETFRAME_TCP_PORT") (Numeral · ·.toNat) s.tcpPort 7000 c.tcpPort
  udpPort : Setting (env.get? "NETFRAME_UDP_PORT") (Numeral · ·.toNat) s.udpPort 7001 c.udpPort
  webSocketPort : Setting (env.get? "NETFRAME_WEBSOCKET_PORT") (Numeral · ·.toNat)
    s.webSocketPort 7002 c.webSocketPort
  bufferLength : c.protocol.bufferLength = s.protocol.bufferLength.getD 8192
  maxRate : Setting (env.get? "NETFRAME_MAX_MESSAGES_PER_SECOND") (Numeral · ·.toNat)
    s.protocol.maxRate 1000 c.protocol.maxRate
  maxPayload : c.protocol.maxPayload = s.protocol.maxPayload.getD 1048576
  strictVersions : c.protocol.strictVersions = s.protocol.strictVersions.getD true
  /-- Every text decides whether there is compression. -/
  compression : Setting (env.get? "NETFRAME_COMPRESSION") (fun text b ↦ b = true ↔ SwitchesOn text)
    s.protocol.compression false c.protocol.compression
  connectionsPerQueue : Setting (env.get? "NETFRAME_CONNECTIONS_PER_QUEUE")
    (fun text n ↦ Numeral text n ∧ n < UInt64.size)
    s.connectionsPerQueue 64 c.queue.connectionsPerQueue
  /-- The password of the document is not used with the certificate of the environment. -/
  tls : Setting (env.get? "NETFRAME_TLS_CERTIFICATE")
    (fun text t ↦ t = some ⟨text, (env.get? "NETFRAME_TLS_PASSWORD").getD ""⟩)
    (s.tls.map some) none c.tls
  debug : Setting (env.get? "NETFRAME_DEBUG") (fun text b ↦ b = true ↔ SwitchesOn text)
    s.debug false c.debug

theorem layered_iff {env : Environment} {s : Stated} {path : String} {c : Config} :
    Layered env s path c ↔ (s.config path).withEnvironment env = c := by
  have hport (text : String) (port : UInt16) : portOf? text = some port ↔ Numeral text port.toNat :=
    portOf?_eq_some_iff
  have hrate (text : String) (rate : UInt32) : (countBelow? UInt32.size text).map UInt32.ofNat =
      some rate ↔ Numeral text rate.toNat :=
    rateOf?_eq_some_iff
  have hswitch (text : String) (b : Bool) : (some ∘ switch) text = some b ↔
      (b = true ↔ SwitchesOn text) := by
    rw [← switch_eq_true_iff, Function.comp_apply, Option.some.injEq, ← Bool.eq_iff_iff, eq_comm]
  have htls (t : Option TlsConfig) :
      Setting (env.get? "NETFRAME_TLS_CERTIFICATE")
        (fun text t ↦ t = some ⟨text, (env.get? "NETFRAME_TLS_PASSWORD").getD ""⟩)
        (s.tls.map some) none t ↔ override env "NETFRAME_TLS_CERTIFICATE" (fun text ↦
          some (some ⟨text, (env.get? "NETFRAME_TLS_PASSWORD").getD ""⟩)) s.tls = t := by
    have hreads (text : String) (t : Option TlsConfig) :
        some (some ⟨text, (env.get? "NETFRAME_TLS_PASSWORD").getD ""⟩) = some t ↔
          t = some ⟨text, (env.get? "NETFRAME_TLS_PASSWORD").getD ""⟩ := by
      rw [Option.some.injEq, eq_comm]
    have hstated : (s.tls.map some).getD none = s.tls := by cases s.tls <;> rfl
    rw [Setting.iff_override hreads, hstated]
  constructor
  · intro h
    obtain ⟨_, _, _, _, _, ⟨_, _, _, _, _⟩, ⟨_⟩, _, _⟩ := c
    obtain rfl := h.path
    obtain rfl := (Setting.iff_override fun _ _ ↦ Iff.rfl).1 h.bindAddress
    obtain rfl := (Setting.iff_override hport).1 h.tcpPort
    obtain rfl := (Setting.iff_override hport).1 h.udpPort
    obtain rfl := (Setting.iff_override hport).1 h.webSocketPort
    obtain rfl := h.bufferLength
    obtain rfl := (Setting.iff_override hrate).1 h.maxRate
    obtain rfl := h.maxPayload
    obtain rfl := h.strictVersions
    obtain rfl := (Setting.iff_override hswitch).1 h.compression
    obtain rfl := (Setting.iff_override fun _ _ ↦ countBelow?_eq_some_iff).1 h.connectionsPerQueue
    obtain rfl := (htls _).1 h.tls
    obtain rfl := (Setting.iff_override hswitch).1 h.debug
    rfl
  · rintro rfl
    refine ⟨rfl, ?_, ?_, ?_, ?_, rfl, ?_, rfl, rfl, ?_, ?_, ?_, ?_⟩
    · exact (Setting.iff_override fun _ _ ↦ Iff.rfl).2 rfl
    · exact (Setting.iff_override hport).2 rfl
    · exact (Setting.iff_override hport).2 rfl
    · exact (Setting.iff_override hport).2 rfl
    · exact (Setting.iff_override hrate).2 rfl
    · exact (Setting.iff_override hswitch).2 rfl
    · exact (Setting.iff_override fun _ _ ↦ countBelow?_eq_some_iff).2 rfl
    · exact (htls _).2 rfl
    · exact (Setting.iff_override hswitch).2 rfl

/-! ## The rules -/

/-- The rules that a configuration can break; each is named by the error that reports it. -/
def Breaks (c : Config) : ConfigError → Prop
  | .portClash => ¬ ([c.tcpPort, c.udpPort, c.webSocketPort].filter (· ≠ 0)).Nodup
  | .bufferTooShort => c.protocol.bufferLength < 64
  | .payloadOutOfRange => ¬ (1 ≤ c.protocol.maxPayload ∧ c.protocol.maxPayload ≤ 2 ^ 32 - 1)
  | .emptyQueues => c.queue.connectionsPerQueue = 0
  | .noCertificatePath => ∃ t, c.tls = some t ∧ t.certificatePath = ""
  | .unreadable _ | .malformed _ => False

/-- The rules in the order in which they are checked. -/
def rules : List ConfigError :=
  [.portClash, .bufferTooShort, .payloadOutOfRange, .emptyQueues, .noCertificatePath]

/-- A rule is broken, and none of those before it. -/
def BreaksFirst (c : Config) (e : ConfigError) : Prop :=
  c.Breaks e ∧ ∃ before after, rules = before ++ e :: after ∧ ∀ e' ∈ before, ¬ c.Breaks e'

theorem breaks_portClash_iff {c : Config} : c.Breaks .portClash ↔
    (clash c.tcpPort c.udpPort || clash c.tcpPort c.webSocketPort ||
      clash c.udpPort c.webSocketPort) = true := by
  by_cases htcp : c.tcpPort = 0 <;> by_cases hudp : c.udpPort = 0 <;>
    by_cases hweb : c.webSocketPort = 0 <;>
    simp [Breaks, clash, htcp, hudp, hweb, or_assoc, Decidable.imp_iff_not_or]

open Classical in
/-- The rules are checked one after another. -/
theorem violation?_eq_find? (c : Config) : c.violation? = rules.find? fun e ↦ c.Breaks e := by
  have hbuffer : c.Breaks .bufferTooShort ↔ c.protocol.bufferLength < 64 := Iff.rfl
  have hpayload : c.Breaks .payloadOutOfRange ↔
      c.protocol.maxPayload = 0 ∨ payloadCeiling < c.protocol.maxPayload := by
    show ¬ (1 ≤ c.protocol.maxPayload ∧ c.protocol.maxPayload ≤ 4294967295) ↔
      c.protocol.maxPayload = 0 ∨ 4294967295 < c.protocol.maxPayload
    omega
  have hqueues : c.Breaks .emptyQueues ↔ c.queue.connectionsPerQueue = 0 := Iff.rfl
  rw [violation?]
  simp only [← breaks_portClash_iff, ← hbuffer, ← hpayload, ← hqueues]
  by_cases h₁ : c.Breaks .portClash
  · simp [rules, h₁]
  by_cases h₂ : c.Breaks .bufferTooShort
  · simp [rules, h₁, h₂]
  by_cases h₃ : c.Breaks .payloadOutOfRange
  · simp [rules, h₁, h₂, h₃]
  by_cases h₄ : c.Breaks .emptyQueues
  · simp [rules, h₁, h₂, h₃, h₄]
  by_cases h₅ : c.Breaks .noCertificatePath
  · obtain ⟨t, ht, hpath⟩ := h₅
    have h₅ : c.Breaks .noCertificatePath := ⟨t, ht, hpath⟩
    simp [rules, h₁, h₂, h₃, h₄, h₅, ht, hpath]
  · have hcertificate : ∀ t, c.tls = some t → t.certificatePath ≠ "" :=
      fun t ht hpath ↦ h₅ ⟨t, ht, hpath⟩
    cases ht : c.tls with
    | none => simp [rules, h₁, h₂, h₃, h₄, h₅]
    | some t => simp [rules, h₁, h₂, h₃, h₄, h₅, hcertificate t ht]

theorem violation?_eq_some_iff {c : Config} {e : ConfigError} :
    c.violation? = some e ↔ c.BreaksFirst e := by
  classical
  rw [violation?_eq_find?, List.find?_eq_some_iff_append]
  simp [BreaksFirst]

theorem mem_rules {c : Config} {e : ConfigError} (he : c.Breaks e) : e ∈ rules := by
  cases e <;> simp_all [rules, Breaks]

theorem violation?_eq_none_iff {c : Config} : c.violation? = none ↔ ∀ e, ¬ c.Breaks e := by
  classical
  rw [violation?_eq_find?, List.find?_eq_none]
  constructor
  · intro hkeeps e he
    exact hkeeps e (mem_rules he) (decide_eq_true he)
  · intro hkeeps e _ he
    exact hkeeps e (of_decide_eq_true he)

/-! ## Loading -/

section Load

variable {parse : String → Option Toml.Entries} {files : FileTree} {env : Environment}

/-- The settings of the document under a path; there is none if nothing stands there. -/
inductive Documented (parse : String → Option Toml.Entries) (files : FileTree) (path : String) :
    Stated → Prop
  | absent (hfile : files.find? path = none) : Documented parse files path {}
  | document {content : Bytes} {text : String} {entries : Toml.Entries} {s : Stated}
      (hfile : files.find? path = some (.file content)) (htext : textOf? content = some text)
      (hentries : parse text = some entries) (hs : s.Of entries) : Documented parse files path s

/-- What comes of loading a configuration. -/
inductive Loads (parse : String → Option Toml.Entries) (files : FileTree) (env : Environment) :
    Except ConfigError Config → Prop
  | directory (hfile : files.find? (pathIn env) = some .directory) :
      Loads parse files env (.error (.unreadable (pathIn env)))
  | noText {content : Bytes} (hfile : files.find? (pathIn env) = some (.file content))
      (htext : textOf? content = none) : Loads parse files env (.error (.unreadable (pathIn env)))
  | malformed {content : Bytes} {text : String}
      (hfile : files.find? (pathIn env) = some (.file content))
      (htext : textOf? content = some text)
      (hnone : ∀ entries, parse text = some entries → ∀ s : Stated, ¬ s.Of entries) :
      Loads parse files env (.error (.malformed (pathIn env)))
  /-- The rules are kept or broken by what the layers give together. -/
  | refused {s : Stated} {c : Config} {e : ConfigError} (hs : Documented parse files (pathIn env) s)
      (hc : Layered env s (pathIn env) c) (he : c.BreaksFirst e) : Loads parse files env (.error e)
  | loaded {s : Stated} {c : Config} (hs : Documented parse files (pathIn env) s)
      (hc : Layered env s (pathIn env) c) (hkeeps : ∀ e, ¬ c.Breaks e) :
      Loads parse files env (.ok c)

theorem ofDocument?_eq_some_iff {text : String} {c : Config} :
    ofDocument? text parse = some c ↔
      ∃ entries s, parse text = some entries ∧ Stated.Of entries s ∧ s.config "" = c := by
  simp only [ofDocument?, Option.bind_eq_some_iff, Stated.ofEntries?_eq_some_iff]
  constructor
  · rintro ⟨entries, hentries, s, hs, rfl⟩
    exact ⟨entries, s, hentries, hs, rfl⟩
  · rintro ⟨entries, s, hentries, hs, rfl⟩
    exact ⟨entries, hentries, s, hs, rfl⟩

theorem ofFile_eq_ok_iff {path : String} {c : Config} :
    ofFile files path parse = .ok c ↔ ∃ s, Documented parse files path s ∧ s.config path = c := by
  constructor
  · intro hfile
    rw [ofFile] at hfile
    split at hfile
    · next hnone =>
      cases hfile
      exact ⟨{}, .absent hnone, rfl⟩
    · cases hfile
    · next content hcontent =>
      split at hfile
      · cases hfile
      · next text htext =>
        split at hfile
        · cases hfile
        · next found hfound =>
          obtain ⟨entries, s, hentries, hs, rfl⟩ := ofDocument?_eq_some_iff.1 hfound
          cases hfile
          exact ⟨s, .document hcontent htext hentries hs, rfl⟩
  · rintro ⟨s, hs, rfl⟩
    cases hs with
    | absent hnone => simp [ofFile, hnone]; rfl
    | document hcontent htext hentries hs =>
        have hfound := ofDocument?_eq_some_iff.2 ⟨_, _, hentries, hs, rfl⟩
        simp [ofFile, hcontent, htext, hfound]
        rfl

theorem ofDocument?_eq_none_iff {text : String} : ofDocument? text parse = none ↔
    ∀ entries, parse text = some entries → ∀ s : Stated, ¬ s.Of entries := by
  rw [Option.eq_none_iff_forall_ne_some]
  constructor
  · intro hnone entries hentries s hs
    exact hnone _ (ofDocument?_eq_some_iff.2 ⟨entries, s, hentries, hs, rfl⟩)
  · intro hnone c hc
    obtain ⟨entries, s, hentries, hs, -⟩ := ofDocument?_eq_some_iff.1 hc
    exact hnone entries hentries s hs

theorem loads_of_ofFile_eq_error {e : ConfigError}
    (hfile : ofFile files (pathIn env) parse = .error e) : Loads parse files env (.error e) := by
  rw [ofFile] at hfile
  split at hfile
  · cases hfile
  · next hdirectory =>
    cases hfile
    exact .directory hdirectory
  · next content hcontent =>
    split at hfile
    · next hnone =>
      cases hfile
      exact .noText hcontent hnone
    · next text htext =>
      split at hfile
      · next hnone =>
        cases hfile
        exact .malformed hcontent htext (ofDocument?_eq_none_iff.1 hnone)
      · cases hfile

theorem loads_validate {s : Stated} {c : Config} (hs : Documented parse files (pathIn env) s)
    (hc : Layered env s (pathIn env) c) : Loads parse files env c.validate := by
  rw [validate]
  split
  · next e hviolation => exact .refused hs hc (violation?_eq_some_iff.1 hviolation)
  · next hnone => exact .loaded hs hc (violation?_eq_none_iff.1 hnone)

theorem load_of_documented {s : Stated} {c : Config} (hs : Documented parse files (pathIn env) s)
    (hc : Layered env s (pathIn env) c) : load files env parse = c.validate := by
  have hfile := ofFile_eq_ok_iff.2 ⟨s, hs, rfl⟩
  rw [load, hfile, ← layered_iff.1 hc]

theorem loads_load : Loads parse files env (load files env parse) := by
  cases hfile : ofFile files (pathIn env) parse with
  | error e =>
      have hload : load files env parse = .error e := by rw [load, hfile]
      rw [hload]
      exact loads_of_ofFile_eq_error hfile
  | ok c =>
      obtain ⟨s, hs, -⟩ := ofFile_eq_ok_iff.1 hfile
      rw [load_of_documented hs (layered_iff.2 rfl)]
      exact loads_validate hs (layered_iff.2 rfl)

theorem load_of_loads {outcome : Except ConfigError Config}
    (hloads : Loads parse files env outcome) : load files env parse = outcome := by
  cases hloads with
  | directory hfile => simp [load, ofFile, hfile]
  | noText hfile htext => simp [load, ofFile, hfile, htext]
  | malformed hfile htext hnone =>
      simp [load, ofFile, hfile, htext, ofDocument?_eq_none_iff.2 hnone]
  | refused hs hc he =>
      rw [load_of_documented hs hc, validate, violation?_eq_some_iff.2 he]
  | loaded hs hc hkeeps =>
      rw [load_of_documented hs hc, validate, violation?_eq_none_iff.2 hkeeps]

/-- Whatever the parser makes of a document, and whatever files and variables there are, the layers
give one configuration, and loading gives that configuration, the first rule that it breaks, or
what is wrong with the document. -/
theorem load_eq_iff_loads (parse : String → Option Toml.Entries) (files : FileTree)
    (env : Environment) :
    (∀ s path, ∃! c, Layered env s path c) ∧
      ∀ outcome, load files env parse = outcome ↔ Loads parse files env outcome := by
  constructor
  · intro s path
    exact ⟨_, layered_iff.2 rfl, fun c hc ↦ (layered_iff.1 hc).symm⟩
  · intro outcome
    constructor
    · rintro rfl
      exact loads_load
    · exact load_of_loads

end Load

end Config

end MessageEngine
