import LoadScript.Proofs.Request
import Mathlib.Data.List.Nodup

/-!
# The walk through the folders of a collection

An item of a collection has an address: its index among the items beside it,
after the indexes of the folders around it. Which requests a document holds,
and where, is said by addresses alone (`RequestAt`), and so is the order in
which they are replayed (`Before`): along the items, and what is in a folder
before the folder's own request.

The walk reaches the requests in that order and each of them once
(`pairwise_listing`, `mem_listing_iff`), so the transactions of a document are
those of its requests, one after the other, and the first request that cannot
be replayed decides the error. Folders leave no trace in that: only the steps
that are requests count (`transactions_outcome`), which is why a folder can be
replaced by its contents.
-/

namespace LoadScript.Document

/-! ## Addresses -/

/-- The way to an item: the indexes of the folders around it, from the
outermost on, and its own. -/
abbrev Address := List Nat

/-- Under the address stands an item with a request. -/
inductive RequestAt : List Item → Address → Option String → Request → Prop where
  | own {items : List Item} {i : Nat} {name : Option String} {request : Request}
      {children : Option (List Item)} : items[i]? = some (.mk name (some request) children) →
      RequestAt items [i] name request
  | inside {items children : List Item} {i : Nat} {name folder : Option String}
      {request : Request} {own : Option Request} {address : Address} :
      items[i]? = some (.mk folder own (some children)) →
      RequestAt children address name request → RequestAt items (i :: address) name request

/-- The order of items: along the list of items, and from what is in a folder to
the folder itself. -/
inductive Before : Address → Address → Prop where
  | inside (i : Nat) (rest : Address) : Before (i :: rest) []
  | along {i j : Nat} (h : i < j) (rest more : Address) : Before (i :: rest) (j :: more)
  | under {rest more : Address} (i : Nat) (h : Before rest more) :
      Before (i :: rest) (i :: more)

theorem Before.asymm {a b : Address} (h : Before a b) : ¬ Before b a := by
  induction h with
  | inside i rest =>
      intro hback
      cases hback
  | along hij rest more =>
      intro hback
      cases hback with
      | along hji => omega
      | under => omega
  | under i h ih =>
      intro hback
      cases hback with
      | along hii => omega
      | under _ hback => exact ih hback

theorem Before.ne {a b : Address} (h : Before a b) : a ≠ b := by
  rintro rfl
  exact h.asymm h

/-! ## What the walk reaches -/

/-- A request with the address and the name of its item. -/
structure Listed where
  address : Address
  name : Option String
  request : Request

def Listed.under (i : Nat) (entry : Listed) : Listed :=
  { entry with address := i :: entry.address }

def Listed.recorded (entry : Listed) : Option String × Request := (entry.name, entry.request)

def ownListing (name : Option String) : Option Request → List Listed
  | none => []
  | some request => [⟨[], name, request⟩]

def Ordered (listing : List Listed) : Prop := (listing.map Listed.address).Pairwise Before

theorem Ordered.nodup {listing : List Listed} (h : Ordered listing) :
    (listing.map Listed.address).Nodup := List.Pairwise.imp Before.ne h

/-- Requests have one order only. -/
theorem Ordered.unique {listing other : List Listed} (h : Ordered listing) (h' : Ordered other)
    (hsame : ∀ entry, entry ∈ listing ↔ entry ∈ other) : listing = other := by
  have hperm := (List.perm_ext_iff_of_nodup h.nodup.of_map h'.nodup.of_map).2 hsame
  refine hperm.eq_of_pairwise (fun a b _ _ hab hba => ?_) (List.pairwise_map.1 h)
    (List.pairwise_map.1 h')
  exact absurd hba hab.asymm

mutual

def Item.listing : Item → List Listed
  | .mk name request none => ownListing name request
  | .mk name request (some items) => listingFrom 0 items ++ ownListing name request

/-- The requests of items, of which the first has the given index. -/
def listingFrom (i : Nat) : List Item → List Listed
  | [] => []
  | item :: rest => item.listing.map (Listed.under i) ++ listingFrom (i + 1) rest

end

def requestsOf (steps : List Step) : List (Option String × Request) :=
  steps.filterMap fun
    | .enter _ => none
    | .request name request => some (name, request)

theorem requestsOf_append (steps more : List Step) :
    requestsOf (steps ++ more) = requestsOf steps ++ requestsOf more :=
  List.filterMap_append

def ownWalk (name : Option String) : Option Request → List Step
  | none => []
  | some request => [.request name request]

theorem requestsOf_ownWalk (name : Option String) (request : Option Request) :
    requestsOf (ownWalk name request) = (ownListing name request).map Listed.recorded := by
  cases request <;> rfl

theorem walk_leaf (name : Option String) (request : Option Request) :
    (Item.mk name request none).walk = ownWalk name request := by
  cases request <;> simp [Item.walk, ownWalk]

theorem walk_folder (name : Option String) (request : Option Request) (items : List Item) :
    (Item.mk name request (some items)).walk
      = .enter (name.getD "") :: walkAll items ++ ownWalk name request := by
  cases request <;> simp [Item.walk, ownWalk]

mutual

theorem requestsOf_walk : ∀ item : Item,
    requestsOf item.walk = item.listing.map Listed.recorded
  | .mk name request none => by
      rw [walk_leaf, Item.listing, requestsOf_ownWalk]
  | .mk name request (some items) => by
      rw [walk_folder, Item.listing, requestsOf_append, List.map_append, requestsOf_ownWalk,
        ← requestsOf_walkAll items 0]
      rfl

theorem requestsOf_walkAll : ∀ (items : List Item) (i : Nat),
    requestsOf (walkAll items) = (listingFrom i items).map Listed.recorded
  | [], _ => rfl
  | item :: rest, i => by
      rw [walkAll, listingFrom, requestsOf_append, List.map_append, List.map_map,
        requestsOf_walk item, requestsOf_walkAll rest (i + 1)]
      rfl

end

theorem mem_listingFrom_iff {items : List Item} {first : Nat} {entry : Listed} :
    entry ∈ listingFrom first items ↔ ∃ (i : Nat) (item : Item), items[i]? = some item
      ∧ ∃ inner ∈ item.listing, entry = inner.under (first + i) := by
  induction items generalizing first with
  | nil => simp [listingFrom]
  | cons item rest ih =>
      rw [listingFrom, List.mem_append, List.mem_map, ih]
      constructor
      · rintro (⟨inner, hinner, rfl⟩ | ⟨i, other, hother, inner, hinner, rfl⟩)
        · exact ⟨0, item, rfl, inner, hinner, rfl⟩
        · refine ⟨i + 1, other, hother, inner, hinner, ?_⟩
          rw [Nat.add_assoc, Nat.add_comm 1 i]
      · rintro ⟨i, other, hother, inner, hinner, rfl⟩
        cases i with
        | zero =>
            obtain rfl : item = other := Option.some.inj hother
            exact Or.inl ⟨inner, hinner, rfl⟩
        | succ i =>
            refine Or.inr ⟨i, other, hother, inner, hinner, ?_⟩
            rw [Nat.add_assoc, Nat.add_comm 1 i]

theorem mem_listing_iff {item : Item} {entry : Listed} :
    entry ∈ item.listing ↔
      (∃ folder own children, item = .mk folder own (some children)
        ∧ entry ∈ listingFrom 0 children)
      ∨ ∃ name request children, item = .mk name (some request) children
        ∧ entry = ⟨[], name, request⟩ := by
  obtain ⟨name, request, children⟩ := item
  cases children with
  | none => cases request <;> simp [Item.listing, ownListing]
  | some items => cases request <;> simp [Item.listing, ownListing]

/-- The walk reaches the requests of a document, and nothing else. -/
theorem mem_listingFrom_zero_iff {address : Address} {items : List Item} {name : Option String}
    {request : Request} :
    ⟨address, name, request⟩ ∈ listingFrom 0 items ↔ RequestAt items address name request := by
  -- the first index picks an item, and the rest is an address in the item
  induction address generalizing items with
  | nil =>
      rw [mem_listingFrom_iff]
      constructor
      · rintro ⟨i, item, _, inner, _, heq⟩
        exact absurd (congrArg Listed.address heq) (by simp [Listed.under])
      · intro h
        cases h
  | cons i rest ih =>
      rw [mem_listingFrom_iff]
      constructor
      · rintro ⟨j, item, hitem, ⟨address, label, recorded⟩, hinner, heq⟩
        obtain ⟨haddress, rfl, rfl⟩ := Listed.mk.inj heq
        obtain ⟨hij, rfl⟩ := List.cons.inj haddress
        obtain rfl : i = j := by omega
        rcases mem_listing_iff.1 hinner with ⟨folder, own, children, rfl, hinside⟩ |
          ⟨label, recorded, children, rfl, howned⟩
        · exact .inside hitem (ih.1 hinside)
        · obtain ⟨rfl, rfl, rfl⟩ := Listed.mk.inj howned
          exact .own hitem
      · intro h
        refine ⟨i, ?_⟩
        rw [Nat.zero_add]
        cases h with
        | own hitem =>
            exact ⟨_, hitem, _, mem_listing_iff.2 (Or.inr ⟨_, _, _, rfl, rfl⟩), rfl⟩
        | inside hitem hinside =>
            exact ⟨_, hitem, _, mem_listing_iff.2 (Or.inl ⟨_, _, _, rfl, ih.2 hinside⟩), rfl⟩

mutual

theorem pairwise_listing : ∀ item : Item, (item.listing.map Listed.address).Pairwise Before
  | .mk name request none => by cases request <;> simp [Item.listing, ownListing]
  | .mk name request (some items) => by
      rw [Item.listing, List.map_append, List.pairwise_append]
      refine ⟨pairwise_listingFrom items 0, ?_, ?_⟩
      · cases request <;> simp [ownListing]
      · -- the folder's own request has the empty address, which is behind all others
        intro a ha b hb
        obtain rfl : b = [] := by cases request <;> simp_all [ownListing]
        obtain ⟨entry, hentry, rfl⟩ := List.mem_map.1 ha
        obtain ⟨i, item, -, inner, -, rfl⟩ := mem_listingFrom_iff.1 hentry
        exact .inside _ _

theorem pairwise_listingFrom : ∀ (items : List Item) (first : Nat),
    ((listingFrom first items).map Listed.address).Pairwise Before
  | [], _ => .nil
  | item :: rest, first => by
      rw [listingFrom, List.map_append, List.pairwise_append]
      refine ⟨?_, pairwise_listingFrom rest (first + 1), ?_⟩
      · have hitem := (pairwise_listing item).map (first :: ·)
          (fun a b (h : Before a b) => Before.under first h)
        rw [List.map_map] at hitem ⊢
        exact hitem
      · intro a ha b hb
        obtain ⟨entry, hentry, rfl⟩ := List.mem_map.1 ha
        obtain ⟨other, hother, rfl⟩ := List.mem_map.1 hb
        obtain ⟨inner, -, rfl⟩ := List.mem_map.1 hentry
        obtain ⟨i, item, -, more, -, rfl⟩ := mem_listingFrom_iff.1 hother
        exact .along (by omega) _ _

end

/-! ## What the transactions are built from -/

/-- The name under which a request is replayed: its own, or its number. -/
def nameFor (name : Option String) (number : Nat) : String :=
  name.getD ("request " ++ toString number)

/-- Requests under their names, the first of them having the given number. -/
def numbered (first : Nat) : List (Option String × Request) → List (String × Request)
  | [] => []
  | (name, request) :: rest => (nameFor name first, request) :: numbered (first + 1) rest

def build (named : String × Request) : Except Error Transaction := named.2.transaction named.1

theorem transactions_outcome (count : Nat) (steps : List Step) :
    (transactions count steps).outcome
      = (numbered (count + 1) (requestsOf steps)).mapM build := by
  induction steps generalizing count with
  | nil => rfl
  | cons step rest ih =>
      cases step with
      | enter folder =>
          -- a folder is reported, and counts for nothing
          rw [transactions, Traced.outcome_bind, Traced.outcome_report]
          exact ih count
      | request name request =>
          have hrequests : numbered (count + 1) (requestsOf (.request name request :: rest))
              = (nameFor name (count + 1), request)
                :: numbered (count + 1 + 1) (requestsOf rest) := rfl
          rw [hrequests, mapM_cons_eq, transactions, Traced.outcome_bind,
            Traced.outcome_ofExcept, ← ih (count + 1)]
          refine congrArg _ (funext fun t => ?_)
          rw [Traced.outcome_bind]
          rfl

def namedRequests (document : Document) : List (String × Request) :=
  numbered 1 (requestsOf (walkAll document.items))

theorem ofDocument_outcome (document : Document) :
    (Collection.ofDocument document).outcome
      = ((namedRequests document).mapM build).map fun ts =>
          { name := document.info.bind Info.name, transactions := ts, vars := document.varMap } := by
  rw [Collection.ofDocument, Traced.outcome_bind, transactions_outcome, Nat.zero_add,
    namedRequests]
  cases (numbered 1 (requestsOf (walkAll document.items))).mapM build <;> rfl

theorem failure?_ofDocument (document : Document) :
    failure? (Collection.ofDocument document).outcome
      = (namedRequests document).findSome? fun named => failure? (build named) := by
  rw [ofDocument_outcome, ← failure?_mapM]
  cases (namedRequests document).mapM build <;> rfl

/-- The requests that the walk reaches, each with its number. -/
def places (items : List Item) : List (Listed × Nat) := (listingFrom 0 items).zipIdx 1

def namedAt (place : Listed × Nat) : String × Request :=
  (nameFor place.1.name place.2, place.1.request)

theorem numbered_recorded (entries : List Listed) (first : Nat) :
    numbered first (entries.map Listed.recorded) = (entries.zipIdx first).map namedAt := by
  induction entries generalizing first with
  | nil => rfl
  | cons entry rest ih =>
      rw [List.zipIdx_cons, List.map_cons, List.map_cons, ← ih (first + 1)]
      rfl

theorem namedRequests_eq (document : Document) :
    namedRequests document = (places document.items).map namedAt := by
  rw [namedRequests, requestsOf_walkAll document.items 0, numbered_recorded, places]

/-- A folder with a request of its own. -/
example : namedRequests ⟨none, [.mk (some "folder") (some (.bare "b"))
      (some [.mk none (some (.bare "a")) none])], []⟩
    = [("request 1", .bare "a"), ("folder", .bare "b")] := by rfl

/-- What an outcome is, given the requests that are reached: the transaction of
each, if all of them are complete, and else the error of the first that is not. -/
structure Replays (places : List (Listed × Nat)) (outcome : Except Error Collection) : Prop where
  succeeds : (∃ collection, outcome = .ok collection) ↔
    ∀ place ∈ places, place.1.request.Complete
  built : ∀ collection, outcome = .ok collection →
    List.Forall₂ (fun place t => t.name = nameFor place.1.name place.2
      ∧ place.1.request.transaction t.name = .ok t) places collection.transactions
  failed : ∀ error, outcome = .error error ↔
    ∃ front place back, places = front ++ place :: back
      ∧ (∀ earlier ∈ front, earlier.1.request.Complete)
      ∧ place.1.request.Fault (nameFor place.1.name place.2) error

theorem failure?_build_eq_none_iff (place : Listed × Nat) :
    failure? (build (namedAt place)) = none ↔ place.1.request.Complete := by
  rw [failure?_eq_none_iff]
  exact Request.exists_transaction_iff _ _

theorem failure?_build_eq_some_iff (place : Listed × Nat) (error : Error) :
    failure? (build (namedAt place)) = some error
      ↔ place.1.request.Fault (nameFor place.1.name place.2) error := by
  rw [failure?_eq_some_iff]
  exact Request.transaction_eq_error_iff

theorem replays_ofDocument (document : Document) :
    Replays (places document.items) (Collection.ofDocument document).outcome where
  succeeds := by
    rw [← failure?_eq_none_iff, failure?_ofDocument, namedRequests_eq, List.findSome?_map,
      List.findSome?_eq_none_iff]
    exact forall₂_congr fun place _ => failure?_build_eq_none_iff place
  built := by
    intro collection h
    rw [ofDocument_outcome, namedRequests_eq] at h
    obtain ⟨ts, hts, rfl⟩ := map_eq_ok_iff.1 h
    rw [mapM_eq_ok_iff, List.forall₂_map_left_iff] at hts
    refine hts.imp fun place t hbuild => ?_
    have hname : t.name = nameFor place.1.name place.2 := Request.transaction_name hbuild
    refine ⟨hname, ?_⟩
    rw [hname]
    exact hbuild
  failed := by
    intro error
    rw [← failure?_eq_some_iff, failure?_ofDocument, namedRequests_eq, List.findSome?_map,
      List.findSome?_eq_some_iff]
    constructor
    · rintro ⟨front, place, back, hplaces, hfault, hfront⟩
      exact ⟨front, place, back, hplaces,
        fun earlier h => (failure?_build_eq_none_iff earlier).1 (hfront earlier h),
        (failure?_build_eq_some_iff place error).1 hfault⟩
    · rintro ⟨front, place, back, hplaces, hfront, hfault⟩
      exact ⟨front, place, back, hplaces, (failure?_build_eq_some_iff place error).2 hfault,
        fun earlier h => (failure?_build_eq_none_iff earlier).2 (hfront earlier h)⟩

/-! ## Folders are transparent -/

def leaf (name : Option String) : Option Request → List Item
  | none => []
  | some request => [.mk name (some request) none]

/-- The second list is the first one with a folder, at any depth, replaced by what
is in it and its own request behind that. -/
inductive Unfolds : List Item → List Item → Prop where
  | here (front back children : List Item) (name : Option String) (request : Option Request) :
      Unfolds (front ++ .mk name request (some children) :: back)
        (front ++ (children ++ leaf name request) ++ back)
  | inside (front back : List Item) (name : Option String) (request : Option Request)
      {children more : List Item} : Unfolds children more →
      Unfolds (front ++ .mk name request (some children) :: back)
        (front ++ .mk name request (some more) :: back)

theorem walkAll_append (items more : List Item) :
    walkAll (items ++ more) = walkAll items ++ walkAll more := by
  induction items with
  | nil => rfl
  | cons item rest ih => rw [List.cons_append, walkAll, walkAll, ih, List.append_assoc]

theorem walkAll_leaf (name : Option String) (request : Option Request) :
    walkAll (leaf name request) = ownWalk name request := by
  cases request with
  | none => rfl
  | some request => rw [leaf, walkAll, walk_leaf, walkAll, List.append_nil]

theorem requestsOf_enter (folder : String) (steps : List Step) :
    requestsOf (.enter folder :: steps) = requestsOf steps := rfl

theorem requestsOf_unfolds {items more : List Item} (h : Unfolds items more) :
    requestsOf (walkAll items) = requestsOf (walkAll more) := by
  induction h with
  | here front back children name request =>
      simp only [walkAll_append, walkAll, walk_folder, walkAll_leaf, requestsOf_append,
        List.cons_append, requestsOf_enter, List.append_assoc]
  | inside front back name request _ ih =>
      simp only [walkAll_append, walkAll, walk_folder, requestsOf_append, List.cons_append,
        requestsOf_enter, List.append_assoc, ih]

/-- Neither the collection nor the error depends on folders. -/
theorem ofDocument_unfolds {document other : Document} (h : Unfolds document.items other.items)
    (hinfo : document.info = other.info) (hvars : document.vars = other.vars) :
    (Collection.ofDocument document).outcome = (Collection.ofDocument other).outcome := by
  rw [ofDocument_outcome, ofDocument_outcome, namedRequests, namedRequests,
    requestsOf_unfolds h, hinfo, varMap, varMap, hvars]

/-- The requests of a document have one order, with what is in a folder before the
folder. The collection has a transaction for each of them in this order, under the
name of its item or else its number, if all of them are complete; if not, the error
is that of the first one that is not. A folder can be replaced by its contents, and
nothing changes. -/
theorem ofDocument_walk (document : Document) :
    ∃ listing : List Listed,
      (∀ other : List Listed, other = listing ↔ Ordered other
        ∧ ∀ address name request, ⟨address, name, request⟩ ∈ other
          ↔ RequestAt document.items address name request)
      ∧ (listing.map Listed.address).Nodup
      ∧ Replays (listing.zipIdx 1) (Collection.ofDocument document).outcome
      ∧ (∀ items, Unfolds document.items items →
          (Collection.ofDocument { document with items := items }).outcome
            = (Collection.ofDocument document).outcome)
      ∧ ∀ text, Document.parse? text = some document →
          (Collection.parse text).outcome = (Collection.ofDocument document).outcome := by
  have hordered : Ordered (listingFrom 0 document.items) := pairwise_listingFrom document.items 0
  refine ⟨listingFrom 0 document.items, ?_, hordered.nodup, replays_ofDocument document, ?_, ?_⟩
  · intro other
    constructor
    · rintro rfl
      exact ⟨hordered, fun address name request => mem_listingFrom_zero_iff⟩
    · rintro ⟨hother, hmem⟩
      refine hother.unique hordered fun ⟨address, name, request⟩ => ?_
      rw [hmem, mem_listingFrom_zero_iff]
  · intro items hitems
    have hsame : (Collection.ofDocument document).outcome
        = (Collection.ofDocument { document with items := items }).outcome :=
      ofDocument_unfolds hitems rfl rfl
    exact hsame.symm
  · intro text htext
    rw [Collection.parse, htext]

end LoadScript.Document
