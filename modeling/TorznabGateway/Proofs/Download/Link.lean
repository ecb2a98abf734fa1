import TorznabGateway.Gateway
import TorznabGateway.Indexer.Scripted
import TorznabGateway.Proofs.Http.Segment
import TorznabGateway.Proofs.Indexer.Registry
import TorznabGateway.Proofs.Token.Issue
import TorznabGateway.Search.Sample

/-!
# Issued links lead back

The link that an item gets is the public URL and the path of a download: a signed token for the
item's own link, and a file name made from its title. Whatever title and link the indexer gave, the
path has these two segments, they are read back as they were written, and the request for them is
handed to the indexer of the item, with the item's own link.

## Main statements

* `Gateway.answer_downloadPath`: a request for the path of a download fetches what it names.
* `LinkIssuer.issue_leads_back`: what an issued link is made of, and what it fetches.
-/
namespace TorznabGateway

open Text Encoding

/-! ## The parts of an issued link -/

namespace LinkIssuer

/-- The token of an issued link. -/
def tokenOf (secret : SharedSecret) (i : Item) : List Char :=
  DownloadToken.wireForm secret (DownloadToken.payload ⟨i.site, i.canonicalLink⟩)

/-- The file name in an issued link. -/
def filenameOf (i : Item) : String :=
  fileStem i.title ++ ".torrent"

/-- The file name as an issued link spells it. -/
def filenameSegment (i : Item) : String :=
  Percent.encode (fileStem i.title) ++ ".torrent"

theorem inSegment_tokenOf {secret : SharedSecret} {i : Item} {c : Char}
    (h : c ∈ tokenOf secret i) : Route.InSegment c := by
  rcases DownloadToken.isUrlSafe_of_mem_wireForm h with safe | rfl
  · exact safe.inSegment
  · decide

theorem inSegment_filenameSegment {i : Item} {c : Char} (h : c ∈ (filenameSegment i).toList) :
    Route.InSegment c := by
  have extension : ".torrent".toList.all (Route.InSegment ·) := by decide
  rw [filenameSegment, String.toList_append, List.mem_append] at h
  rcases h with h | h
  · exact Percent.inSegment_of_mem_encode h
  · simpa using List.all_eq_true.1 extension c h

/-- A token holds no percent sign, so it stands for itself. -/
theorem spelledAs_tokenOf (secret : SharedSecret) (i : Item) :
    Route.SpelledAs (tokenOf secret i) (.ofList (tokenOf secret i)) := by
  rw [Route.SpelledAs, Percent.decode, Utf8.encode, String.toList_ofList]
  refine Percent.decodeBytes_encodeChars fun c hc => ?_
  rcases DownloadToken.isUrlSafe_of_mem_wireForm hc with safe | rfl
  · refine ⟨safe.toNat_lt, ?_⟩
    rintro rfl
    exact absurd safe (by decide)
  · decide

theorem spelledAs_filenameSegment (i : Item) :
    Route.SpelledAs (filenameSegment i).toList (filenameOf i) := by
  rw [Route.SpelledAs, String.ofList_toList, filenameSegment, Percent.decode_encode_append]
  simp only [filenameOf, Utf8.encode, String.toList_append, Utf8.encodeChars_append]
  rfl

/-- What is issued for an item whose link is replaced. -/
theorem issue_fst {publicUrl : String} {secret : SharedSecret} {i : Item} (link : i.link ≠ "")
    (web : i.isMagnet = false) :
    ((LinkIssuer.new publicUrl secret).issue i).1 =
      { i with
        link := trimEndOf '/' publicUrl
          ++ Route.downloadPath (tokenOf secret i) (filenameSegment i).toList
        sourceLink := none } := by
  have replaced : replaces i = true := by simp [replaces, link, web]
  rw [issue, if_pos replaced]
  simp only [DownloadToken.encode, LinkIssuer.new, Item.mk.injEq, and_true, true_and]
  rw [← String.toList_inj]
  simp [Route.downloadPath, tokenOf, filenameSegment]

end LinkIssuer

/-! ## Fetching by an issued token -/

namespace Gateway

variable (g : Gateway) (s : GatewayState) (now : Nat)

/-- What a client gets for a file that an indexer was asked for. -/
def ofFetched (filename : String) : Except IndexerError Download → HttpResponse
  | .ok d => ofDownload filename d
  | .error _ => .plain 502 "Upstream download failed"

/-- The token of an item's link is handed to the indexer of the item, with the item's own link. -/
theorem download_tokenOf {g : Gateway} {i : Item} {x : Indexer}
    (found : g.registry.find? i.site = some x) (filename : String) :
    g.download s now (.ofList (LinkIssuer.tokenOf g.responder.secret i)) filename =
      { response := some (ofFetched filename (x.download now i.canonicalLink))
        state := s
        downloads := [(x.name, i.canonicalLink)] } := by
  rw [download, LinkIssuer.tokenOf, DownloadToken.decode_wireForm]
  simp only [found]
  cases x.download now i.canonicalLink <;> rfl

/-- A GET for the path of a download is a download of what its segments stand for. -/
theorem answer_downloadPath {token filename : List Char} {tokenText filenameText : String}
    {r : HttpRequest} (ht : ∀ c ∈ token, Route.InSegment c)
    (hf : ∀ c ∈ filename, Route.InSegment c) (some_name : filename ≠ [])
    (spelled_token : Route.SpelledAs token tokenText)
    (spelled_filename : Route.SpelledAs filename filenameText)
    (get : r.method = "GET") (path : r.path = Route.downloadPath token filename) :
    g.answer s now r = g.download s now tokenText filenameText := by
  rw [answer, path, Route.find?_downloadPath ht hf some_name]
  simp only [answerRoute, get, Route.decode_cons, spelled_token.text?, spelled_filename.text?,
    Route.decode_nil]
  rfl

end Gateway

namespace LinkIssuer

/-- The link of an item becomes the public URL without slashes at its end, and a path of three
segments that are read back as `d`, a token and the name of a file. All else but the source link
stays. The download of this token and name, which is what a GET for the path is, asks the indexer of
the item for the item's own link, and answers with the body of the file that it gets. -/
theorem issue_leads_back (publicUrl : String) (g : Gateway) (s : GatewayState) (now : Nat)
    {i : Item} {x : Indexer} (link : i.link ≠ "") (web : i.isMagnet = false)
    (distinct : g.registry.DistinctNames) (registered : x ∈ g.registry.indexers)
    (site : i.site = x.name) :
    ∃ token filename : List Char,
      ((LinkIssuer.new publicUrl g.responder.secret).issue i).1 =
        { i with
          link := trimEndOf '/' publicUrl ++ Route.downloadPath token filename
          sourceLink := none }
      ∧ (∀ c ∈ token ++ filename, c ≠ '/' ∧ c ≠ '?' ∧ c ≠ '#')
      ∧ Route.segments? (Route.downloadPath token filename) = some [['d'], token, filename]
      ∧ Percent.decode (.ofList token) = Utf8.encode (.ofList token)
      ∧ Percent.decode (.ofList filename) = Utf8.encode (fileStem i.title ++ ".torrent")
      ∧ (g.download s now (.ofList token) (fileStem i.title ++ ".torrent")).downloads
        = [(x.name, i.canonicalLink)]
      ∧ (∀ d, x.download now i.canonicalLink = .ok d →
        ∃ response, (g.download s now (.ofList token) (fileStem i.title ++ ".torrent")).response
          = some response ∧ response.status = 200 ∧ response.body = d.body)
      ∧ ∀ r : HttpRequest, r.method = "GET" → r.path = Route.downloadPath token filename →
        g.answer s now r = g.download s now (.ofList token) (fileStem i.title ++ ".torrent") := by
  have found : g.registry.find? i.site = some x := by
    rw [site]
    exact Registry.find?_of_mem distinct registered
  have ht : ∀ c ∈ tokenOf g.responder.secret i, Route.InSegment c := fun c => inSegment_tokenOf
  have hf : ∀ c ∈ (filenameSegment i).toList, Route.InSegment c :=
    fun c => inSegment_filenameSegment
  have some_name : (filenameSegment i).toList ≠ [] := by simp [filenameSegment]
  have fetched := Gateway.download_tokenOf s now found (filenameOf i)
  refine ⟨tokenOf g.responder.secret i, (filenameSegment i).toList, issue_fst link web, ?_,
    Route.segments?_downloadPath ht hf, spelledAs_tokenOf _ i, spelledAs_filenameSegment i, ?_, ?_,
    ?_⟩
  · intro c hc
    rcases List.mem_append.1 hc with hc | hc
    · exact ht c hc
    · exact hf c hc
  · rw [← filenameOf, fetched]
  · intro d hd
    rw [← filenameOf, fetched, hd]
    exact ⟨_, rfl, rfl, rfl⟩
  · intro r get path
    exact g.answer_downloadPath s now ht hf some_name (spelledAs_tokenOf _ i)
      (spelledAs_filenameSegment i) get path

/-- An indexer that has one file. -/
def sampleSource : Indexer :=
  ({ name := "Rarbg", files := [("http://origin.example/a?b#c", [1, 2])] } : Script).toIndexer

/-- The title holds a slash, both other delimiters and a letter outside ASCII, and the item has a
source link. -/
def sampleItem : Item :=
  { Sample.webItem "Rarbg" "1" "AC/DC #1? Ä" with sourceLink := some "http://origin.example/a?b#c" }

theorem issue_leads_back_delimiters :
    let g := Gateway.new {} { indexers := [({ name := "b" } : Script).toIndexer, sampleSource] } [7]
      default default
    (sampleItem.link ≠ "" ∧ sampleItem.isMagnet = false ∧ g.registry.DistinctNames
      ∧ sampleSource ∈ g.registry.indexers ∧ sampleItem.site = sampleSource.name)
    ∧ ∃ token filename,
      ((LinkIssuer.new "http://nab.example//" g.responder.secret).issue sampleItem).1.link
        = "http://nab.example" ++ Route.downloadPath token filename
      ∧ Percent.decode (.ofList filename) = Utf8.encode "AC_DC #1? Ä.torrent"
      ∧ ∃ response, (g.download g.start 0 (.ofList token) "AC_DC #1? Ä.torrent").response
        = some response ∧ response.body = [1, 2] := by
  intro g
  have link : sampleItem.link ≠ "" := by decide
  have distinct : g.registry.DistinctNames := by decide
  have registered : sampleSource ∈ g.registry.indexers := List.mem_cons_of_mem _ List.mem_cons_self
  have name : fileStem sampleItem.title ++ ".torrent" = "AC_DC #1? Ä.torrent" := by decide
  have base : trimEndOf '/' "http://nab.example//" = "http://nab.example" := by decide
  obtain ⟨token, filename, issued, -, -, -, spelled, -, fetched, -⟩ :=
    issue_leads_back "http://nab.example//" g g.start 0 link rfl distinct registered rfl
  rw [name] at spelled fetched
  rw [base] at issued
  obtain ⟨response, answered, -, body⟩ := fetched _ rfl
  exact ⟨⟨link, rfl, distinct, registered, rfl⟩, token, filename, congrArg Item.link issued,
    spelled, response, answered, body⟩

end LinkIssuer

end TorznabGateway
