import LoadScript.Proofs.Walk

/-!
# Spellings of a request

A document can say the same in several ways: a request that is fetched can be
written as its URL alone, a URL as one text or as an object that holds this text,
a host or a path as one text or as a list with one label. One document is a
respelling of another if it differs from it in such places only, be it in some of
them or in all. Then both come to the same collection or to the same error.

Each spelling has its own way through the code, and what these ways have in common
is a text: the text of labels, of a URL, of a request's URL. An empty text is the
one to be careful with, since an object with an empty URL in it has no URL at all;
but a request without a URL has an empty one.
-/

namespace LoadScript

namespace Document

/-! ## Respellings -/

/-- One text as a list with one label. -/
inductive Labels.Respelled : Labels → Labels → Prop where
  | same (labels : Labels) : Respelled labels labels
  | list (text : String) : Respelled (.joined text) (.list [text])

/-- Parts of which the host or the path are respelled. -/
inductive UrlParts.Respelled : UrlParts → UrlParts → Prop where
  | mk (parts : UrlParts) {host path : Option Labels} :
      Option.Rel Labels.Respelled parts.host host → Option.Rel Labels.Respelled parts.path path →
      Respelled parts { parts with host := host, path := path }

/-- A URL that is recorded as one text, in the form of an object. -/
def UrlParts.ofRaw (text : String) : UrlParts where
  raw := some text
  protocol := none
  host := none
  port := none
  path := none
  query := []
  hash := none

/-- One text as an object that holds it. -/
inductive Url.Respelled : Url → Url → Prop where
  | same (text : String) : Respelled (.plain text) (.plain text)
  | raw (text : String) : Respelled (.plain text) (.structured (.ofRaw text))
  | parts {parts other : UrlParts} : parts.Respelled other →
      Respelled (.structured parts) (.structured other)

def FullRequest.fetch (url : Url) : FullRequest where
  method := some "GET"
  url := some url
  headers := []
  body := none

/-- A URL alone as the request that fetches it. The URL can be respelled with it. -/
inductive Request.Respelled : Request → Request → Prop where
  | same (url : String) : Respelled (.bare url) (.bare url)
  | fetch {text : String} {url : Url} : Url.Respelled (.plain text) url →
      Respelled (.bare text) (.full (.fetch url))
  | full (request : FullRequest) {url : Option Url} :
      Option.Rel Url.Respelled request.url url →
      Respelled (.full request) (.full { request with url := url })

mutual

/-- Items with the same names and folders, whose requests are respelled. -/
inductive Item.Respelled : Item → Item → Prop where
  | leaf (name : Option String) {request other : Option Request} :
      Option.Rel Request.Respelled request other →
      Item.Respelled (.mk name request none) (.mk name other none)
  | folder (name : Option String) {request other : Option Request} {items others : List Item} :
      Option.Rel Request.Respelled request other → AllRespelled items others →
      Item.Respelled (.mk name request (some items)) (.mk name other (some others))

@[inherit_doc Item.Respelled]
inductive AllRespelled : List Item → List Item → Prop where
  | nil : AllRespelled [] []
  | cons {item other : Item} {rest others : List Item} : Item.Respelled item other →
      AllRespelled rest others → AllRespelled (item :: rest) (other :: others)

end

/-! ## Respelled requests come to the same -/

theorem Labels.Respelled.join_eq {labels other : Labels} (h : labels.Respelled other)
    (separator : String) : labels.join separator = other.join separator := by
  cases h with
  | same labels => rfl
  | list text => rw [Labels.join, Labels.join, String.intercalate_singleton]

theorem map_join_eq {labels other : Option Labels} (h : Option.Rel Labels.Respelled labels other)
    (separator : String) : labels.map (Labels.join separator) = other.map (Labels.join separator) := by
  cases h with
  | some h => exact congrArg some (h.join_eq separator)
  | none => rfl

theorem UrlParts.Respelled.text?_eq {parts other : UrlParts} (h : parts.Respelled other) :
    (Url.structured parts).text? = (Url.structured other).text? := by
  obtain ⟨hhost, hpath⟩ := h
  rename_i host path
  have hhostText : UrlParts.hostText { parts with host := host, path := path } = parts.hostText :=
    congrArg (·.getD "") (map_join_eq hhost ".").symm
  have hpathText : UrlParts.pathText { parts with host := host, path := path } = parts.pathText :=
    congrArg (·.getD "") (map_join_eq hpath "/").symm
  have hassemble : UrlParts.assemble? { parts with host := host, path := path }
      = parts.assemble? := by
    rw [assemble?, hhostText, hpathText]
    rfl
  rw [Url.text?, Url.text?, hassemble]

/-- Without any part there is no URL. -/
theorem text?_ofRaw (text : String) :
    (Url.structured (.ofRaw text)).text? = if text = "" then none else some text := rfl

/-- The text of a URL, empty where there is none, has no spelling. -/
theorem Url.Respelled.text_eq {url other : Url} (h : url.Respelled other) :
    url.text?.getD "" = other.text?.getD "" := by
  cases h with
  | same text => rfl
  | raw text =>
      rw [text?_ofRaw]
      split
      · next hempty => exact hempty
      · rfl
  | parts h => rw [h.text?_eq]

theorem urlText_eq {url other : Option Url} (h : Option.Rel Url.Respelled url other) :
    (url.bind Url.text?).getD "" = (other.bind Url.text?).getD "" := by
  cases h with
  | some h => exact h.text_eq
  | none => rfl

theorem Request.Respelled.resolve_eq {request other : Request} (h : request.Respelled other)
    (name : String) : request.resolve name = other.resolve name := by
  cases h with
  | same url => rfl
  | fetch h =>
      have hurl := h.text_eq
      rw [Request.resolve, Request.resolve]
      simp only [FullRequest.fetch, Option.bind_some, ← hurl]
      rfl
  | full request h =>
      rw [Request.resolve, Request.resolve]
      simp only [urlText_eq h]

theorem Request.Respelled.transaction_eq {request other : Request} (h : request.Respelled other)
    (name : String) : request.transaction name = other.transaction name := by
  rw [Request.transaction, Request.transaction, h.resolve_eq name]

/-! ## The walk -/

/-- Steps of the walk into the same folders, and to requests that are respelled. -/
inductive Step.Respelled : Step → Step → Prop where
  | enter (folder : String) : Respelled (.enter folder) (.enter folder)
  | request (name : Option String) {request other : Request} : request.Respelled other →
      Respelled (.request name request) (.request name other)

theorem respelled_ownWalk (name : Option String) {request other : Option Request}
    (h : Option.Rel Request.Respelled request other) :
    List.Forall₂ Step.Respelled (ownWalk name request) (ownWalk name other) := by
  cases h with
  | some h => exact .cons (.request name h) .nil
  | none => exact .nil

mutual

theorem respelled_walk : ∀ {item other : Item}, item.Respelled other →
    List.Forall₂ Step.Respelled item.walk other.walk
  | _, _, .leaf name h => by
      rw [walk_leaf, walk_leaf]
      exact respelled_ownWalk name h
  | _, _, .folder name h hitems => by
      rw [walk_folder, walk_folder]
      exact List.rel_append (.cons (.enter _) (respelled_walkAll hitems)) (respelled_ownWalk name h)

theorem respelled_walkAll : ∀ {items others : List Item}, AllRespelled items others →
    List.Forall₂ Step.Respelled (walkAll items) (walkAll others)
  | _, _, .nil => .nil
  | _, _, .cons h hrest => by
      rw [walkAll, walkAll]
      exact List.rel_append (respelled_walk h) (respelled_walkAll hrest)

end

/-- Step by step, the same is reported and the same transactions are built. -/
theorem transactions_respelled {steps others : List Step}
    (h : List.Forall₂ Step.Respelled steps others) (count : Nat) :
    transactions count steps = transactions count others := by
  induction h generalizing count with
  | nil => rfl
  | cons hstep _ ih =>
      cases hstep with
      | enter folder => rw [transactions, transactions, ih]
      | request name hrequest =>
          rw [transactions, transactions, hrequest.transaction_eq, ih]

end Document

/-- A document in which requests, URLs, hosts and paths are respelled, and nothing else
is changed. -/
inductive Document.Respelled : Document → Document → Prop where
  | mk (document : Document) {items : List Document.Item} :
      Document.AllRespelled document.items items →
      Respelled document { document with items := items }

namespace Document

/-- A document and a respelling of it come to the same collection, name by name,
request by request and variable by variable, or to the same error, which is told in
the same words; and so do texts that hold them. -/
theorem ofDocument_respelled {document other : Document} (h : document.Respelled other) :
    (Collection.ofDocument document).outcome = (Collection.ofDocument other).outcome
      ∧ ∀ text more, Document.parse? text = some document → Document.parse? more = some other →
          Collection.parse text = Collection.parse more := by
  have hsame : Collection.ofDocument document = Collection.ofDocument other := by
    obtain ⟨hitems⟩ := h
    rw [Collection.ofDocument, Collection.ofDocument,
      transactions_respelled (respelled_walkAll hitems) 0]
    rfl
  refine ⟨congrArg Traced.outcome hsame, fun text more htext hmore => ?_⟩
  rw [Collection.parse, Collection.parse, htext, hmore]
  exact hsame

/-- A request written as its URL, in a folder with an own request whose URL has parts. -/
def terse : Document where
  info := none
  items := [.mk (some "shop") (some (.full
      { method := some "POST"
        url := some (.structured ⟨none, some "http", some (.joined "shop.test"), none,
          some (.joined "/carts"), [], none⟩)
        headers := []
        body := none }))
    (some [.mk none (some (.bare "http://shop.test/")) none,
      .mk none (some (.full ⟨some "PUT", some (.plain ""), [], none⟩)) none])]
  vars := []

/-- The same, with the request in full and all URLs as objects. -/
def verbose : Document where
  info := none
  items := [.mk (some "shop") (some (.full
      { method := some "POST"
        url := some (.structured ⟨none, some "http", some (.list ["shop.test"]), none,
          some (.list ["/carts"]), [], none⟩)
        headers := []
        body := none }))
    (some [.mk none (some (.full (.fetch (.structured (.ofRaw "http://shop.test/"))))) none,
      .mk none (some (.full ⟨some "PUT", some (.structured (.ofRaw "")), [], none⟩)) none])]
  vars := []

theorem ofDocument_respelled_verbose :
    terse.Respelled verbose
      ∧ (Collection.ofDocument terse).outcome = (Collection.ofDocument verbose).outcome
      ∧ failure? (Collection.ofDocument verbose).outcome = some (.missingUrl "request 2") := by
  have hspelled : terse.Respelled verbose := by
    refine .mk terse (.cons (.folder _ (.some (.full _ (.some (.parts (.mk _ (.some (.list _))
      (.some (.list _))))))) ?_) .nil)
    exact .cons (.leaf _ (.some (.fetch (.raw _))))
      (.cons (.leaf _ (.some (.full _ (.some (.raw _))))) .nil)
  exact ⟨hspelled, (ofDocument_respelled hspelled).1, by rfl⟩

end Document

end LoadScript
