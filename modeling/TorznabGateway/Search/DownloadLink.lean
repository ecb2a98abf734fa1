import TorznabGateway.Encoding.Percent
import TorznabGateway.Search.Item
import TorznabGateway.Text.WhiteSpace
import TorznabGateway.Token

/-!
# Download links

An item's link is replaced by one that leads back to the gateway: its public URL, `/d/`, a signed
token for the link, and a file name made from the title. Magnet links and empty links stay as they
are.
-/
namespace TorznabGateway

open Text Encoding

/-- What stands in front of issued download links, and the secret that signs them. -/
structure LinkIssuer where
  baseUrl : String
  secret : SharedSecret

namespace LinkIssuer

/-- Issue links under the public URL of the gateway. -/
def new (publicUrl : String) (secret : SharedSecret) : LinkIssuer :=
  ⟨trimEndOf '/' publicUrl ++ "/d", secret⟩

/-- Whether a character cannot stand in a file name. -/
def isUnsafe (c : Char) : Bool :=
  c == '/' || c == '\\' || c == '"' || c.toNat < 0x20

/-- A title as a file name without extension. -/
def fileStem (title : String) : String :=
  let stem := trimChars (title.toList.map fun c => if isUnsafe c then '_' else c)
  if stem.isEmpty then "download" else .ofList stem

/-- Whether an item's link is replaced. -/
def replaces (i : Item) : Bool :=
  !(i.link.isEmpty || i.isMagnet)

/-- Replace an item's link. The source link goes with it. -/
def issue (r : LinkIssuer) (i : Item) : Item × List Observation :=
  if replaces i then
    let token : DownloadToken := ⟨i.site, i.canonicalLink⟩
    let (wire, observed) := token.encode r.secret
    ({ i with
        link := r.baseUrl ++ "/" ++ wire ++ "/" ++ Percent.encode (fileStem i.title) ++ ".torrent"
        sourceLink := none },
     observed)
  else (i, [])

end LinkIssuer

end TorznabGateway
