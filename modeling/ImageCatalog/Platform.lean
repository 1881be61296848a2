import ImageCatalog.Text.Case
import ImageCatalog.Text.Search

/-!
# Platforms

The operating system family of an image, and how it is guessed from free
text such as a product name, an operating system description or an image
name: the text is lowered, and the first family in `Platform.keywords` with
a keyword occurring in it wins. The order matters: "red hat" must win over
the generic "linux".
-/

namespace ImageCatalog

open ImageCatalog.Text

/-- An operating system family. -/
inductive Platform where
  | unknown | windows | ubuntu | debian | centos | rhel | fedora | suse | freebsd
  | solaris | coreos | unix
  deriving BEq, DecidableEq, Repr, Inhabited

namespace Platform

/-- The name of a family. -/
def name : Platform → String
  | .unknown => "unknown"
  | .windows => "windows"
  | .ubuntu => "ubuntu"
  | .debian => "debian"
  | .centos => "centos"
  | .rhel => "rhel"
  | .fedora => "fedora"
  | .suse => "suse"
  | .freebsd => "freebsd"
  | .solaris => "solaris"
  | .coreos => "coreos"
  | .unix => "unix"

/-- Every family, `unknown` first. -/
def all : List Platform :=
  [.unknown, .windows, .ubuntu, .debian, .centos, .rhel, .fedora, .suse, .freebsd, .solaris,
    .coreos, .unix]

/-- The family with a given name. -/
def ofName? (s : String) : Option Platform := all.find? (·.name == s)

/-- The keywords of each family, in the order they are tried. -/
def keywords : List (Platform × List String) :=
  [(.windows, ["windows", "win2k", "win20"]),
   (.ubuntu, ["ubuntu"]),
   (.debian, ["debian"]),
   (.centos, ["centos", "cent os"]),
   (.rhel, ["red hat", "redhat", "rhel"]),
   (.fedora, ["fedora"]),
   (.suse, ["suse", "sles"]),
   (.freebsd, ["freebsd", "free bsd"]),
   (.solaris, ["solaris"]),
   (.coreos, ["coreos"]),
   (.unix, ["linux", "unix", "bsd"])]

/-- The family guessed from a lowered text. -/
def guessLowered (lowered : String) : Platform :=
  match keywords.find? (fun (_, ks) => ks.any (hasInfix lowered ·)) with
  | some (p, _) => p
  | none => .unknown

/-- The family guessed from a text; `unknown` for no text or an empty one. -/
def guess : Option String → Platform
  | none => .unknown
  | some t => if t.isEmpty then .unknown else guessLowered (lower t)

end Platform

end ImageCatalog
