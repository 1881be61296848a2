import ImageCatalog.Xml.Query
import ImageCatalog.Text.Integer

/-!
# Default networks

The default network names of a template come from the primary connection of
its first VM: the connection whose index equals the section's primary
index. Its network is the DHCP default when its allocation mode is DHCP, the
static default otherwise. Network names are trimmed, and empty names count
as none.
-/

namespace ImageCatalog

open ImageCatalog.Text ImageCatalog.Xml

/-- A trimmed name, `none` when empty. -/
def nonEmpty (value : Option String) : Option String :=
  match value with
  | none => none
  | some v => let t := trim v; if t.isEmpty then none else some t

/-- The default networks of a template. -/
structure NetworkDefaults where
  dhcp : Option String := none
  static : Option String := none
  deriving Repr, BEq, Inhabited

/-- Default networks from names as given: trimmed, empty ones dropped. -/
def NetworkDefaults.ofNames (dhcp static : Option String) : NetworkDefaults :=
  ⟨nonEmpty dhcp, nonEmpty static⟩

/-- The integer a text denotes, if it is an integer literal. -/
def integerOf (value : Option String) : Option Int :=
  value.bind parseInteger?

/-- Reads the default networks from a network connection section. -/
def NetworkDefaults.ofSection (sec : Element) : NetworkDefaults :=
  match integerOf (textOf (sec.firstChild "PrimaryNetworkConnectionIndex")) with
  | none => {}
  | some primary =>
    let isPrimary (c : Element) : Bool :=
      integerOf (textOf (c.firstChild "NetworkConnectionIndex")) == some primary
    match (sec.childrenNamed "NetworkConnection").find? isPrimary with
    | none => {}
    | some conn =>
      match textOf (conn.firstChild "IpAddressAllocationMode") with
      | none => {}
      | some mode =>
        let network := conn.attrValue "network"
        if upperAscii mode == "DHCP" then NetworkDefaults.ofNames network none
        else NetworkDefaults.ofNames none network

end ImageCatalog
