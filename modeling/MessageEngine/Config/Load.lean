import MessageEngine.Config.Document

/-!
# Loading the configuration

A configuration comes in three layers: the defaults, a file that may be
missing, and the variables of the environment.  A variable whose text makes
no sense for its setting is passed over, and so is one that is no text.
The rules are checked on what the layers give together.
-/

namespace MessageEngine

/-- The text of some octets in UTF-8. -/
def textOf? (b : Bytes) : Option String := String.fromUTF8? ⟨b.toArray⟩

/-- The variables of an environment, as octets. -/
abbrev Environment := List (String × Bytes)

/-- The text of a variable. -/
def Environment.get? (env : Environment) (name : String) : Option String :=
  (env.lookup name).bind textOf?

/-! ## Files -/

/-- What stands under a path. -/
inductive FileEntry
  | directory
  | file (content : Bytes)
  deriving DecidableEq, Repr

/-- A place among files: the names that lead there from the working directory, or from the root
if the first of them is `/`.  A name `..` leads above the working directory. -/
abbrev Place := List String

namespace Place

def root : Place := ["/"]

/-- Such a place is the root, or the working directory, or lies above it. -/
def isAbove (p : Place) : Bool := p.all fun name ↦ name = ".." || name = "/"

/-- Where a part of a path leads. -/
def step (p : Place) (part : String) : Place :=
  if part = "" ∨ part = "." then p
  else if part = ".." then
    if p = root then root else if p.isAbove then p ++ [".."] else p.dropLast
  else p ++ [part]

/-- Where a path begins, and its parts. -/
def split (path : String) : Place × List String :=
  match path.splitOn "/" with
  | "" :: parts => (root, parts)
  | parts => ([], parts)

end Place

/-- Files and directories by their places. -/
abbrev FileTree := List (Place × FileEntry)

namespace FileTree

/-- What stands at a place. -/
def entry? (t : FileTree) (p : Place) : Option FileEntry :=
  if p.isAbove then some .directory else t.lookup p

/-- Put something where the parts of a path lead, with the directories on the way. -/
def putFrom (t : FileTree) (p : Place) (x : FileEntry) : (parts : List String) → FileTree
  | [] => (p, x) :: t
  | part :: parts => putFrom ((p, .directory) :: t) (p.step part) x parts

/-- Put something under a path. -/
def put (t : FileTree) (path : String) (x : FileEntry) : FileTree :=
  let (p, parts) := Place.split path
  t.putFrom p x parts

/-- What is reached from some place by the parts of a path. -/
def walk? (t : FileTree) (p : Place) : (parts : List String) → Option FileEntry
  | [] => t.entry? p
  | part :: parts =>
    match t.entry? p with
    | some .directory => walk? t (p.step part) parts
    | _ => none

/-- The longest path that leads anywhere, in octets. -/
def maxPath : Nat := 4095

def find? (t : FileTree) (path : String) : Option FileEntry :=
  if path = "" ∨ maxPath < path.utf8ByteSize then none
  else
    let (p, parts) := Place.split path
    t.walk? p parts

end FileTree

/-! ## Variables -/

/-- A whole number below a bound: decimal digits, perhaps behind a plus sign. -/
def countBelow? (bound : Nat) (text : String) : Option Nat :=
  let digits := match text.toList with
    | '+' :: rest => rest
    | cs => cs
  if digits ≠ [] ∧ digits.all Char.isDigit then
    let n := digits.foldl (fun n c ↦ if n < bound then 10 * n + (c.toNat - 48) else n) 0
    if n < bound then some n else none
  else none

def portOf? (text : String) : Option UInt16 := (countBelow? UInt16.size text).map UInt16.ofNat

/-- Only `1` and `true` in any case switch something on. -/
def switch (text : String) : Bool := text.toLower = "true" || text = "1"

namespace Config

/-- What a variable says, or the setting as it was. -/
def override {α : Type} (env : Environment) (name : String) (decode : String → Option α)
    (setting : α) : α :=
  ((env.get? name).bind decode).getD setting

/-- The settings with those of the environment in their place. -/
def withEnvironment (env : Environment) (c : Config) : Config where
  path := c.path
  bindAddress := override env "NETFRAME_BIND_ADDRESS" IpAddress.ofText? c.bindAddress
  tcpPort := override env "NETFRAME_TCP_PORT" portOf? c.tcpPort
  udpPort := override env "NETFRAME_UDP_PORT" portOf? c.udpPort
  webSocketPort := override env "NETFRAME_WEBSOCKET_PORT" portOf? c.webSocketPort
  protocol := { c.protocol with
    maxRate := override env "NETFRAME_MAX_MESSAGES_PER_SECOND"
      (fun s ↦ (countBelow? UInt32.size s).map UInt32.ofNat) c.protocol.maxRate
    compression := override env "NETFRAME_COMPRESSION" (some ∘ switch) c.protocol.compression }
  queue := ⟨override env "NETFRAME_CONNECTIONS_PER_QUEUE" (countBelow? UInt64.size)
    c.queue.connectionsPerQueue⟩
  tls := override env "NETFRAME_TLS_CERTIFICATE"
    (fun path ↦ some (some ⟨path, (env.get? "NETFRAME_TLS_PASSWORD").getD ""⟩)) c.tls
  debug := override env "NETFRAME_DEBUG" (some ∘ switch) c.debug

/-- The settings of the file under a path; the defaults if there is none. -/
def ofFile (files : FileTree) (path : String)
    (parse : String → Option Toml.Entries := Toml.parse?) : Except ConfigError Config :=
  match files.find? path with
  | none => .ok { path := path }
  | some .directory => .error (.unreadable path)
  | some (.file content) =>
    match textOf? content with
    | none => .error (.unreadable path)
    | some text =>
      match ofDocument? text parse with
      | none => .error (.malformed path)
      | some c => .ok { c with path := path }

/-- The path that the environment names, or the default one. -/
def pathIn (env : Environment) : String := (env.get? "NETFRAME_CONFIG").getD defaultConfigPath

def load (files : FileTree) (env : Environment)
    (parse : String → Option Toml.Entries := Toml.parse?) : Except ConfigError Config :=
  match ofFile files (pathIn env) parse with
  | .error e => .error e
  | .ok c => (c.withEnvironment env).validate

end Config

end MessageEngine
