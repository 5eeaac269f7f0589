import OverCrow.Control.Download

/-!
# What a download may leave behind

Before the temporary file is created a call only takes files out of the cache; then the cache holds
one file at most. What a call ensures follows from these two parts.
-/

namespace OverCrow.Control
open OverCrow.Base List Task

/-- The state after a part of a call that requests and writes nothing: files were at most removed. -/
structure Cleaned (s t : DownloadState) : Prop where
  requested : t.requested = s.requested
  written : t.written = s.written
  removalFailed : t.removalFailed = s.removalFailed
  entries : t.entries.Sublist s.entries

theorem Cleaned.refl (s : DownloadState) : Cleaned s s := ⟨rfl, rfl, rfl, List.Sublist.refl _⟩

theorem Cleaned.trans {s t r : DownloadState} (hs : Cleaned s t) (ht : Cleaned t r) : Cleaned s r :=
  ⟨ht.requested.trans hs.requested, ht.written.trans hs.written,
    ht.removalFailed.trans hs.removalFailed, ht.entries.trans hs.entries⟩

namespace Downloader

variable {d : Downloader}

/-! ### The cache directory -/

section Cache

theorem cleaned_bind {α β : Type} {x : Downloading α} {f : α → Downloading β}
    (hx : Task.Follows Cleaned x) (hf : ∀ a, Task.Follows Cleaned (f a)) : Task.Follows Cleaned (x >>= f) :=
  hx.bind hf Cleaned.trans

theorem cleaned_get_bind {β : Type} {f : DownloadState → Downloading β}
    (hf : ∀ s, Task.Follows Cleaned (f s)) : Task.Follows Cleaned (get >>= f) :=
  cleaned_bind (follows_get Cleaned.refl) hf

theorem cleaned_throw {α : Type} (error : UpdateError) :
    Task.Follows Cleaned (throw error : Downloading α) :=
  follows_throw Cleaned.refl error

theorem cleaned_require (condition : Bool) (error : UpdateError) :
    Task.Follows Cleaned (require condition error) := by
  unfold require
  split
  · exact follows_pure Cleaned.refl _
  · exact cleaned_throw error

theorem cleaned_operation (error : UpdateError) : Task.Follows Cleaned (d.operation error) :=
  cleaned_get_bind fun _ => cleaned_bind
    (follows_modify fun _ => ⟨rfl, rfl, rfl, List.Sublist.refl _⟩) fun _ => cleaned_require _ _

section

variable (path : List (List Char))

include path

theorem cleaned_symlinkMetadata : Task.Follows Cleaned (d.symlinkMetadata path) :=
  cleaned_bind (cleaned_operation _) fun _ => cleaned_get_bind fun _ =>
    follows_pure Cleaned.refl _

theorem cleaned_putNode (node : Node) (s : DownloadState) : Cleaned s (d.putNode path node s) := by
  refine ⟨rfl, rfl, rfl, ?_⟩
  unfold putNode
  split
  · exact nil_sublist _
  · exact List.Sublist.refl _

theorem cleaned_requireOrCreate (node : Option Node) :
    Task.Follows Cleaned (d.requireOrCreate path node) := by
  cases node with
  | some node => exact cleaned_require _ _
  | none => exact cleaned_bind (cleaned_operation _) fun _ => follows_modify (cleaned_putNode path _)

theorem cleaned_setPermissions (mode : Nat) : Task.Follows Cleaned (d.setPermissions path mode) :=
  cleaned_bind (cleaned_operation _) fun _ => cleaned_get_bind fun _ =>
    cleaned_bind (cleaned_require _ _) fun _ =>
      follows_modify fun _ => ⟨rfl, rfl, rfl, List.Sublist.refl _⟩

theorem cleaned_ensurePrivateDirectory : Task.Follows Cleaned (d.ensurePrivateDirectory path) :=
  cleaned_bind (cleaned_symlinkMetadata path) fun node =>
    cleaned_bind (cleaned_requireOrCreate path node) fun _ =>
      cleaned_bind (cleaned_setPermissions path _) fun _ =>
        cleaned_bind (cleaned_symlinkMetadata path) fun _ => cleaned_require _ _

end

theorem cleaned_validateExistingDirectoryPath (paths : List (List (List Char))) :
    Task.Follows Cleaned (d.validateExistingDirectoryPath paths) := by
  induction paths with
  | nil => exact follows_pure Cleaned.refl _
  | cons path rest ih =>
    exact cleaned_bind (cleaned_symlinkMetadata path) fun _ =>
      cleaned_bind (cleaned_require _ _) fun _ => ih

theorem cleaned_createCache (path : List (List Char)) : Task.Follows Cleaned (d.createCache path) := by
  unfold createCache
  split
  · exact cleaned_throw _
  split
  · exact cleaned_throw _
  · exact cleaned_bind (cleaned_require _ _) fun _ =>
      cleaned_bind (cleaned_validateExistingDirectoryPath _) fun _ =>
        cleaned_bind (cleaned_symlinkMetadata _) fun _ =>
          cleaned_bind (cleaned_require _ _) fun _ =>
            cleaned_bind (cleaned_ensurePrivateDirectory _) fun _ =>
              cleaned_ensurePrivateDirectory path

theorem cleaned_ensurePrivateCache : Task.Follows Cleaned d.ensurePrivateCache := by
  refine cleaned_bind (cleaned_require _ _) fun _ => cleaned_bind (cleaned_symlinkMetadata _) fun node => ?_
  cases node with
  | some node => exact cleaned_ensurePrivateDirectory _
  | none => exact cleaned_createCache _

theorem cleaned_inspectEntries (index : Nat) (entries : List CacheEntry) :
    Task.Follows Cleaned (d.inspectEntries index entries) := by
  induction entries generalizing index with
  | nil => exact follows_pure Cleaned.refl _
  | cons entry rest ih =>
    exact cleaned_bind (cleaned_require _ _) fun _ => cleaned_bind (cleaned_operation _) fun _ =>
      cleaned_bind (cleaned_operation _) fun _ => cleaned_bind (cleaned_require _ _) fun _ =>
        ih (index + 1)

theorem cleaned_withoutEntry (name : String) (s : DownloadState) : Cleaned s (withoutEntry name s) :=
  ⟨rfl, rfl, rfl, filter_sublist⟩

theorem cleaned_removeEntries (entries : List CacheEntry) :
    Task.Follows Cleaned (d.removeEntries entries) := by
  induction entries with
  | nil => exact follows_pure Cleaned.refl _
  | cons entry rest ih =>
    exact cleaned_bind (cleaned_operation _) fun _ =>
      cleaned_bind (follows_modify (cleaned_withoutEntry entry.name)) fun _ => ih

theorem cleaned_clearCache : Task.Follows Cleaned d.clearCache :=
  cleaned_bind (cleaned_operation _) fun _ => cleaned_get_bind fun _ =>
    cleaned_bind (cleaned_inspectEntries _ _) fun _ => cleaned_removeEntries _

/-- What is still there has none of the names that were removed. -/
theorem name_ne_of_removeEntries {entries : List CacheEntry} {s t : DownloadState}
    (h : (d.removeEntries entries).exec s = (.ok ⟨⟩, t)) :
    ∀ left ∈ t.entries, ∀ removed ∈ entries, left.name ≠ removed.name := by
  induction entries generalizing s with
  | nil => exact fun _ _ _ hmem => absurd hmem not_mem_nil
  | cons entry rest ih =>
    obtain ⟨_, m, -, h⟩ := exec_bind_eq_ok.mp h
    obtain ⟨_, n, hremove, h⟩ := exec_bind_eq_ok.mp h
    obtain rfl : withoutEntry entry.name m = n := congrArg Prod.snd hremove
    have hsublist := cleaned_removeEntries (d := d) rest (withoutEntry entry.name m)
    rw [h] at hsublist
    intro left hleft removed hremoved
    rcases mem_cons.mp hremoved with rfl | hremoved
    · exact of_decide_eq_true (mem_filter.mp (hsublist.entries.subset hleft)).2
    · exact ih h left hleft removed hremoved

/-- A cache that was cleared is empty. -/
theorem entries_of_clearCache {s t : DownloadState} (h : d.clearCache.exec s = (.ok ⟨⟩, t)) :
    t.entries = [] := by
  obtain ⟨_, m, -, h⟩ := exec_bind_eq_ok.mp h
  obtain ⟨_, n, hget, h⟩ := exec_bind_eq_ok.mp h
  obtain ⟨rfl, rfl⟩ : m = _ ∧ m = n := ⟨Except.ok.inj (congrArg Prod.fst hget), congrArg Prod.snd hget⟩
  obtain ⟨_, r, hinspect, h⟩ := exec_bind_eq_ok.mp h
  have hinspected := cleaned_inspectEntries (d := d) 0 m.entries m
  have hremoved := cleaned_removeEntries (d := d) m.entries r
  rw [hinspect] at hinspected
  rw [h] at hremoved
  refine eq_nil_iff_forall_not_mem.mpr fun left hleft => ?_
  have hmem := (hremoved.entries.trans hinspected.entries).subset hleft
  exact name_ne_of_removeEntries h left hleft left hmem rfl

end Cache

/-! ### The temporary file -/

/-- A directory with one private file. -/
def holding (name : String) (contents : List UInt8) : List CacheEntry :=
  [⟨name, true, true, 0o600, contents⟩]

section Writing

variable {s t : DownloadState} {asset : UpdateAsset}
  {contents : List UInt8} {F : UpdateError → DownloadState → Prop} {Q : PUnit → DownloadState → Prop}

/-- The temporary file holds what was written, which is not too much. -/
structure Copied (d : Downloader) (asset : UpdateAsset) (s t : DownloadState)
    (contents : List UInt8) : Prop where
  requested : t.requested = s.requested
  removalFailed : t.removalFailed = s.removalFailed
  entries : t.entries = holding d.temporary contents
  written : t.written = contents.length
  bounded : contents.length ≤ asset.size

/-- Where a call stops that has not verified its file. -/
structure Stopped (d : Downloader) (asset : UpdateAsset) (s t : DownloadState) : Prop where
  requested : t.requested = s.requested
  removalFailed : t.removalFailed = s.removalFailed
  written : t.written ≤ asset.size
  entries : t.entries = [] ∨
    ∃ name contents, (name = d.temporary ∨ name = asset.name) ∧ t.entries = holding name contents

/-- The package is in the cache. -/
structure Verified (d : Downloader) (asset : UpdateAsset) (package : VerifiedPackage)
    (t : DownloadState) : Prop where
  written : t.written ≤ asset.size
  package : package = ⟨joinPath d.cacheRoot asset.name, asset.size, asset.sha256⟩
  entries : ∃ contents, t.entries = holding asset.name contents ∧ contents.length = asset.size ∧
    d.sha256 contents = asset.sha256

theorem Copied.stopped (h : Copied d asset s t contents) : Stopped d asset s t :=
  ⟨h.requested, h.removalFailed, h.written ▸ h.bounded, .inr ⟨_, contents, .inl rfl, h.entries⟩⟩

theorem wp_require {condition : Bool} {error : UpdateError}
    (hQ : condition = true → Q ⟨⟩ s) (hF : F error s) : (require condition error).Wp Q F s := by
  exact wp_ite hQ fun _ => hF

/-- An operation is counted and may fail. -/
theorem wp_operation {error : UpdateError} (hQ : Q ⟨⟩ { s with operations := s.operations + 1 })
    (hF : F error { s with operations := s.operations + 1 }) : (d.operation error).Wp Q F s := by
  unfold operation
  exact wp_require (fun _ => hQ) hF

theorem wp_createTemporary (hentries : s.entries = []) (hwritten : s.written = 0) :
    d.createTemporary.Wp (fun _ t => Copied d asset s t []) (fun _ t => Stopped d asset s t) s := by
  have hstopped : Stopped d asset s { s with operations := s.operations + 1 } :=
    ⟨rfl, rfl, hwritten ▸ Nat.zero_le _, .inl hentries⟩
  unfold createTemporary
  rw [wp_bind]
  refine wp_operation ?_ hstopped
  rw [wp_bind, wp_get, wp_bind]
  refine wp_require (fun _ => ?_) hstopped
  refine ⟨rfl, rfl, ?_, hwritten, Nat.zero_le _⟩
  rw [hentries]
  rfl

theorem Copied.append {bytes : List UInt8} (h : Copied d asset s t contents)
    (hbound : (contents ++ bytes).length ≤ asset.size) :
    Copied d asset s (d.appendBytes bytes t) (contents ++ bytes) where
  requested := h.requested
  removalFailed := h.removalFailed
  entries := by
    unfold appendBytes
    rw [h.entries]
    simp [holding]
  written := by
    unfold appendBytes
    rw [h.written, length_append]
  bounded := hbound

theorem wp_writeAll {bytes : List UInt8} (h : Copied d asset s t contents)
    (hbound : (contents ++ bytes).length ≤ asset.size) :
    (d.writeAll bytes).Wp (fun _ r => Copied d asset s r (contents ++ bytes))
      (fun _ r => Stopped d asset s r) t := by
  unfold writeAll
  rw [wp_bind, wp_get]
  split
  · exact h.append hbound
  · next count _ =>
    have hpart : (contents ++ bytes.take count).length ≤ asset.size := by
      rw [length_append] at hbound ⊢
      exact Nat.le_trans (Nat.add_le_add_left (length_take_le' _ _) _) hbound
    exact (h.append hpart).stopped

/-- The loop keeps count: what the hasher was given is in the file. -/
theorem wp_copyBody (reads : List BodyRead) {hashed : List UInt8} (h : Copied d asset s t hashed) :
    (d.copyBody asset reads hashed.length hashed).Wp
      (fun copied r => copied.1 = copied.2.length ∧ Copied d asset s r copied.2)
      (fun _ r => Stopped d asset s r) t := by
  induction reads generalizing t hashed with
  | nil => exact ⟨rfl, h⟩
  | cons read rest ih =>
    cases read with
    | failed timedOut => exact h.stopped
    | data bytes =>
      cases bytes with
      | nil => exact ⟨rfl, h⟩
      | cons byte bytes =>
        unfold copyBody
        split
        · exact h.stopped
        · next written hwritten =>
          obtain ⟨hadd, hlimit⟩ := Option.filter_eq_some_iff.mp hwritten
          have hsum : hashed.length + (byte :: bytes).length = written := by
            unfold checkedAdd at hadd
            split at hadd
            · exact Option.some.inj hadd
            · cases hadd
          rw [← length_append] at hsum
          have hbound : (hashed ++ byte :: bytes).length ≤ asset.size := by
            rw [hsum]
            simp only [Bool.and_eq_true, decide_eq_true_eq] at hlimit
            exact hlimit.1
          rw [wp_bind]
          refine (wp_writeAll h hbound).mono (fun _ r hr => ?_) fun _ _ hr => hr
          rw [← hsum]
          exact ih hr

theorem entries_renameTemporary {name : String} (h : t.entries = holding d.temporary contents) :
    (d.renameTemporary name t).entries = holding name contents := by
  unfold renameTemporary
  rw [h]
  simp [holding]

/-- The validation of a file that is alone in the cache. -/
theorem wp_validatePackage {name : String} {size : Nat} {digest : Digest}
    (hentries : s.entries = holding name contents)
    (hQ : contents.length = size → d.sha256 contents = digest →
      ∀ n, Q ⟨⟩ { s with operations := n })
    (hF : ∀ error n, F error { s with operations := n }) :
    (d.validatePackage name size digest).Wp Q F s := by
  unfold validatePackage
  rw [wp_bind]
  refine wp_operation ?_ (hF _ _)
  rw [wp_bind, wp_get]
  have hfind : s.entries.find? (fun entry => decide (entry.name = name)) =
      some ⟨name, true, true, 0o600, contents⟩ := by
    rw [hentries]
    simp [holding]
  rw [hfind]
  rw [wp_bind]
  refine wp_require (fun hfile => ?_) (hF _ _)
  have hsize : contents.length = size := by
    simp only [Bool.and_eq_true, decide_eq_true_eq] at hfile
    exact hfile.1.2
  rw [wp_bind]
  refine wp_operation ?_ (hF _ _)
  rw [wp_bind]
  refine wp_operation ?_ (hF _ _)
  exact wp_require (fun hdigest => hQ hsize (of_decide_eq_true hdigest) _) (hF _ _)

theorem wp_writePackage (asset : UpdateAsset) (body : List BodyRead) (hentries : s.entries = [])
    (hwritten : s.written = 0) :
    (d.writePackage asset body).Wp
      (fun package t => t.requested = s.requested ∧ Verified d asset package t)
      (fun _ t => Stopped d asset s t) s := by
  unfold writePackage
  rw [wp_bind]
  refine (wp_createTemporary hentries hwritten).mono (fun _ t ht => ?_) fun _ _ h => h
  rw [wp_bind]
  refine (wp_copyBody body ht).mono (fun copied t ht => ?_) fun _ _ h => h
  obtain ⟨-, hcopied⟩ := ht
  have hstopped := hcopied.stopped
  rw [wp_bind]
  refine wp_require (fun _ => ?_) hstopped
  rw [wp_bind]
  refine wp_require (fun _ => ?_) hstopped
  rw [wp_bind]
  refine wp_operation ?_ ⟨hstopped.requested, hstopped.removalFailed, hstopped.written, hstopped.entries⟩
  rw [wp_bind]
  refine wp_operation ?_ ⟨hstopped.requested, hstopped.removalFailed, hstopped.written, hstopped.entries⟩
  rw [wp_bind, wp_modify]
  -- From here on the file has its final name.
  have hrenamed (n : Nat) : Stopped d asset s
      { d.renameTemporary asset.name t with operations := n } :=
    ⟨hstopped.requested, hstopped.removalFailed, hstopped.written,
      .inr ⟨asset.name, copied.2, .inr rfl, entries_renameTemporary hcopied.entries⟩⟩
  rw [wp_bind]
  refine wp_operation ?_ (hrenamed _)
  rw [wp_bind]
  refine wp_operation ?_ (hrenamed _)
  rw [wp_bind]
  refine wp_validatePackage (entries_renameTemporary hcopied.entries) (fun hsize hdigest n => ?_)
    fun _ n => hrenamed n
  exact ⟨hstopped.requested, hstopped.written, rfl, copied.2,
    entries_renameTemporary hcopied.entries, hsize, hdigest⟩

/-- What is left of a call that failed: at most one file, and the temporary one only if it could
not be removed. -/
structure Left (d : Downloader) (asset : UpdateAsset) (t : DownloadState) : Prop where
  written : t.written ≤ asset.size
  entries : t.entries = [] ∨ ∃ name contents, (name = d.temporary ∨ name = asset.name) ∧
    (name = d.temporary → t.removalFailed = true) ∧ t.entries = holding name contents

theorem Stopped.removeTemporary (h : Stopped d asset s t) : Left d asset (d.removeTemporary t) := by
  unfold Downloader.removeTemporary
  split
  · refine ⟨h.written, ?_⟩
    rcases h.entries with hnone | ⟨name, contents, hname, hentries⟩
    · exact .inl hnone
    · exact .inr ⟨name, contents, hname, fun _ => rfl, hentries⟩
  · refine ⟨h.written, ?_⟩
    unfold withoutEntry
    rcases h.entries with hnone | ⟨name, contents, hname, hentries⟩
    · rw [hnone]
      exact .inl rfl
    · rw [hentries]
      by_cases htemporary : name = d.temporary
      · exact .inl (by simp [holding, htemporary])
      · exact .inr ⟨name, contents, hname, fun h => absurd h htemporary,
          by simp [holding, htemporary]⟩

theorem requested_removeTemporary : (d.removeTemporary t).requested = t.requested := by
  unfold removeTemporary
  split <;> rfl

end Writing

/-! ### Requests -/

section Requests

variable {s t : DownloadState}
  {F : UpdateError → DownloadState → Prop} {Q : PUnit → DownloadState → Prop}

/-- What the trust of a URL says. -/
structure Trusted (d : Downloader) (url : Url) : Prop where
  scheme : d.trust.schemeAllowed url.scheme = true
  host : url.host.getD "" ∈ d.trust.approvedHosts
  username : url.username = ""
  password : url.password = none

theorem trusted_of_validate {url : Url} (h : d.trust.validate url = .ok ()) : Trusted d url := by
  unfold DownloadTrust.validate at h
  split at h
  · cases h
  · next hnot =>
    simp only [Bool.or_eq_true, Bool.not_eq_true', decide_eq_true_eq, not_or, Bool.not_eq_false,
      contains_eq_mem, ne_eq, not_not] at hnot
    exact ⟨hnot.1.1.1, hnot.1.1.2, hnot.1.2, Option.not_isSome_iff_eq_none.mp hnot.2⟩

/-- The requests of a part of a call: trusted, and not more than allowed. -/
def Requests (d : Downloader) (count : Nat) (s t : DownloadState) : Prop :=
  ∃ urls, t.requested = s.requested ++ urls ∧ urls.length ≤ count ∧ ∀ url ∈ urls, Trusted d url

theorem Requests.none {count : Nat} (h : t.requested = s.requested) : Requests d count s t :=
  ⟨[], by rw [h, append_nil], Nat.zero_le count, fun _ hmem => absurd hmem not_mem_nil⟩

/-- A request before the others. -/
theorem Requests.cons {count : Nat} {url : Url} (hurl : Trusted d url)
    (h : Requests d count { s with requested := s.requested ++ [url] } t) :
    Requests d (count + 1) s t := by
  obtain ⟨urls, hrequested, hlength, htrusted⟩ := h
  refine ⟨url :: urls, ?_, Nat.succ_le_succ hlength, forall_mem_cons.mpr ⟨hurl, htrusted⟩⟩
  rw [hrequested, append_assoc]
  rfl

theorem Requests.of_eq {r : DownloadState} {count : Nat} (h : Requests d count s t)
    (hs : s.requested = r.requested) : Requests d count r t := by
  unfold Requests
  rw [← hs]
  exact h

theorem wp_writeVerified (asset : UpdateAsset) (body : List BodyRead) (hentries : s.entries = [])
    (hwritten : s.written = 0) :
    (d.writeVerified asset body).Wp
      (fun package t => t.requested = s.requested ∧ Verified d asset package t)
      (fun _ t => t.requested = s.requested ∧ Left d asset t) s := by
  unfold writeVerified
  rw [wp_onError]
  refine (wp_writePackage asset body hentries hwritten).mono (fun _ _ h => h) fun _ t h => ?_
  exact ⟨requested_removeTemporary.trans h.requested, h.removeTemporary⟩

theorem wp_liftUpdate {result : Except UpdateError Unit} (hQ : result = .ok () → Q ⟨⟩ s)
    (hF : ∀ error, F error s) : (liftUpdate result).Wp Q F s := by
  cases result with
  | ok _ => exact hQ rfl
  | error error => exact hF error

theorem wp_send {index : Nat} {url : Url}
    (hQ : Trusted d url → Q ⟨⟩ { s with requested := s.requested ++ [url] })
    (hF : ∀ error, F error s) : (d.send index url).Wp Q F s := by
  unfold send
  rw [wp_bind]
  refine wp_liftUpdate (fun hvalid => ?_) hF
  rw [wp_bind]
  refine wp_require (fun _ => ?_) (hF _)
  exact hQ (trusted_of_validate hvalid)

/-- How a request ends, with the requests that a redirect may make. -/
theorem wp_receive (asset : UpdateAsset) {n : Nat}
    {redirect : Url → Downloading VerifiedPackage} (response : Response) (hentries : s.entries = [])
    (hwritten : s.written = 0) (hredirect : ∀ url, (redirect url).Wp
      (fun package t => Requests d n s t ∧ Verified d asset package t)
      (fun _ t => Requests d n s t ∧ Left d asset t) s) :
    (d.receive asset redirect response).Wp
      (fun package t => Requests d n s t ∧ Verified d asset package t)
      (fun _ t => Requests d n s t ∧ Left d asset t) s := by
  have hleft : Requests d n s s ∧ Left d asset s :=
    ⟨.none rfl, hwritten ▸ Nat.zero_le _, .inl hentries⟩
  cases response with
  | failed timedOut => exact hleft
  | answer status location body =>
    refine wp_ite (fun _ => ?_) fun _ => wp_ite (fun _ => hleft) fun _ => ?_
    · split
      · exact hleft
      · exact hredirect _
    · exact (wp_writeVerified asset body hentries hwritten).mono
        (fun _ _ h => ⟨.none h.1, h.2⟩) fun _ _ h => ⟨.none h.1, h.2⟩

/-- Each redirect that is left allows one more request. -/
theorem wp_request (asset : UpdateAsset) (left index : Nat) (url : Url) (hentries : s.entries = [])
    (hwritten : s.written = 0) :
    (d.request asset left index url).Wp
      (fun package t => Requests d (left + 1) s t ∧ Verified d asset package t)
      (fun _ t => Requests d (left + 1) s t ∧ Left d asset t) s := by
  have hleft : Left d asset s := ⟨hwritten ▸ Nat.zero_le _, .inl hentries⟩
  induction left generalizing index url s with
  | zero =>
    unfold request
    rw [wp_bind]
    refine wp_send (fun htrusted => ?_) fun _ => ⟨.none rfl, hleft⟩
    refine (wp_receive (n := 0) (s := { s with requested := s.requested ++ [url] }) asset _ hentries
      hwritten fun _ => ?_).mono
      (fun _ _ h => ⟨h.1.cons htrusted, h.2⟩) fun _ _ h => ⟨h.1.cons htrusted, h.2⟩
    exact ⟨.none rfl, hleft.written, hleft.entries⟩
  | succ left ih =>
    unfold request
    rw [wp_bind]
    refine wp_send (fun htrusted => ?_) fun _ => ⟨.none rfl, hleft⟩
    refine (wp_receive (s := { s with requested := s.requested ++ [url] }) asset _ hentries
      hwritten fun url => ?_).mono
      (fun _ _ h => ⟨h.1.cons htrusted, h.2⟩) fun _ _ h => ⟨h.1.cons htrusted, h.2⟩
    exact ih (index + 1) url hentries hwritten ⟨hleft.written, hleft.entries⟩

/-- A call that fails leaves one file of its own, or some of the files that it found. -/
theorem wp_downloadInner (asset : UpdateAsset) (hwritten : s.written = 0) :
    (d.downloadInner asset).Wp
      (fun package t => Requests d (maxRedirects + 1) s t ∧ Verified d asset package t)
      (fun _ t => Requests d (maxRedirects + 1) s t ∧ (Left d asset t ∨ Cleaned s t)) s := by
  have hcleaned {t : DownloadState} (h : Cleaned s t) :
      Requests d (maxRedirects + 1) s t ∧ (Left d asset t ∨ Cleaned s t) :=
    ⟨.none h.requested, .inr h⟩
  unfold downloadInner
  rw [wp_bind]
  refine wp_liftUpdate (fun _ => ?_) fun _ => hcleaned (.refl s)
  rw [wp_bind]
  refine wp_require (fun _ => ?_) (hcleaned (.refl s))
  rw [wp_bind]
  refine cleaned_ensurePrivateCache.wp (fun _ t _ ht => ?_) fun _ _ h => hcleaned h
  rw [wp_bind]
  refine cleaned_clearCache.wp (fun _ r hclear hr => ?_) fun _ _ h => hcleaned (ht.trans h)
  have hr := ht.trans hr
  split
  · exact hcleaned hr
  · refine (wp_request asset maxRedirects 0 _ (entries_of_clearCache hclear)
      (hr.written.trans hwritten)).mono (fun _ u hu => ?_) fun _ u hu => ?_
    · exact ⟨hu.1.of_eq hr.requested, hu.2⟩
    · exact ⟨hu.1.of_eq hr.requested, .inl hu.2⟩

end Requests

/-! ### The next call -/

/-- A cache that `clear_cache` accepts. -/
structure Acceptable (entries : List CacheEntry) : Prop where
  length : entries.length ≤ maxCacheEntries
  removable : ∀ entry ∈ entries, CacheEntry.removable entry = true

theorem Acceptable.sublist {entries rest : List CacheEntry} (h : Acceptable entries)
    (hrest : rest.Sublist entries) : Acceptable rest :=
  ⟨Nat.le_trans hrest.length_le h.length, fun entry hmem => h.removable entry (hrest.subset hmem)⟩

theorem acceptable_holding {name : String} {contents : List UInt8}
    (h : ".download-".toList <+: name.toList ∨ "overcrow".toList <+: name.toList) :
    Acceptable (holding name contents) := by
  refine ⟨Nat.succ_le_succ (Nat.zero_le 31), forall_mem_singleton.mpr ?_⟩
  simpa [CacheEntry.removable, isPrefixOf_iff_prefix] using h

theorem temporary_starts : ".download-".toList <+: d.temporary.toList := by
  unfold temporary
  rw [String.toList_append]
  exact prefix_append _ _

/-- The names of packages start as `clear_cache` expects. -/
theorem expectedAssetName_starts {version : Version} {target : PackageTarget} {name : String}
    (h : expectedAssetName version target = some name) : "overcrow".toList <+: name.toList := by
  have happend {start : String} (hstart : "overcrow".toList <+: start.toList) (rest last : String) :
      "overcrow".toList <+: (start ++ rest ++ last).toList := by
    rw [String.toList_append, String.toList_append, append_assoc]
    exact hstart.trans (prefix_append _ _)
  cases target with
  | arch | rpm | rpmOstree | deb =>
    cases h
    exact happend (by decide) _ _
  | manual => cases h

section Reliable

variable {s : DownloadState}
  {F : UpdateError → DownloadState → Prop} {Q : PUnit → DownloadState → Prop}

theorem wp_operation_reliable (hd : ∀ n, d.faults n = none) {error : UpdateError}
    (hQ : Q ⟨⟩ { s with operations := s.operations + 1 }) : (d.operation error).Wp Q F s := by
  unfold operation
  rw [wp_bind, wp_get, wp_bind, wp_modify, hd]
  exact hQ

theorem wp_require_holds {condition : Bool} {error : UpdateError}
    (h : condition = true) (hQ : Q ⟨⟩ s) : (require condition error).Wp Q F s := by
  rw [h]
  exact hQ

theorem wp_inspectEntries (hd : ∀ n, d.faults n = none) {index : Nat} {entries : List CacheEntry}
    (hlength : index + entries.length ≤ maxCacheEntries)
    (hremovable : ∀ entry ∈ entries, CacheEntry.removable entry = true)
    (hQ : ∀ n, Q ⟨⟩ { s with operations := n }) : (d.inspectEntries index entries).Wp Q F s := by
  induction entries generalizing index s with
  | nil => exact hQ s.operations
  | cons entry rest ih =>
    rw [length_cons] at hlength
    obtain ⟨hentry, hrest⟩ := forall_mem_cons.mp hremovable
    unfold inspectEntries
    rw [wp_bind]
    refine wp_require_holds (decide_eq_true (by omega)) ?_
    rw [wp_bind]
    refine wp_operation_reliable hd ?_
    rw [wp_bind]
    refine wp_operation_reliable hd ?_
    rw [wp_bind]
    exact wp_require_holds hentry (ih (by omega) hrest fun n => hQ n)

theorem wp_removeEntries (hd : ∀ n, d.faults n = none) (entries : List CacheEntry) :
    (d.removeEntries entries).Wp (fun _ _ => True) (fun _ _ => False) s := by
  induction entries generalizing s with
  | nil => trivial
  | cons entry rest ih =>
    unfold removeEntries
    rw [wp_bind]
    refine wp_operation_reliable hd ?_
    exact ih

theorem clearCache_of_acceptable (hd : ∀ n, d.faults n = none) (hs : Acceptable s.entries) :
    ∃ t, d.clearCache.exec s = (.ok ⟨⟩, t) ∧ t.entries = [] := by
  have hwp : d.clearCache.Wp (fun _ _ => True) (fun _ _ => False) s := by
    unfold clearCache
    rw [wp_bind]
    refine wp_operation_reliable hd ?_
    rw [wp_bind, wp_get, wp_bind]
    exact wp_inspectEntries hd (by simpa using hs.length) hs.removable fun _ => wp_removeEntries hd _
  obtain ⟨_, t, hexec, -⟩ := hwp.exists_ok
  exact ⟨t, hexec, entries_of_clearCache hexec⟩

end Reliable

/-! ### Calls -/

/-- Where a call starts. -/
def opened (nodes : List (List Char) → Option Node) (entries : List CacheEntry) : DownloadState :=
  { nodes := nodes, entries := entries }

/-- Calls one after another, whatever each of them meets. -/
def downloads (calls : List (Downloader × UpdateAsset)) (s : DownloadState) : DownloadState :=
  calls.foldl (fun s call => ((call.1.downloadInner call.2).exec (opened s.nodes s.entries)).2) s

section Calls

variable {nodes : List (List Char) → Option Node} {entries : List CacheEntry} {asset : UpdateAsset}

theorem requests_downloadInner (d : Downloader) (asset : UpdateAsset)
    (nodes : List (List Char) → Option Node) (entries : List CacheEntry) :
    Requests d (maxRedirects + 1) (opened nodes entries)
      ((d.downloadInner asset).exec (opened nodes entries)).2 := by
  rcases hexec : (d.downloadInner asset).exec (opened nodes entries) with ⟨result, t⟩
  have h := (wp_downloadInner (d := d) asset rfl).of_exec hexec
  cases result with
  | ok | error => exact h.1

/-- What a call leaves it has put there under one of two names, or it has found it there. -/
theorem entries_downloadInner (d : Downloader) (asset : UpdateAsset)
    (nodes : List (List Char) → Option Node) (entries : List CacheEntry) :
    ((d.downloadInner asset).exec (opened nodes entries)).2.entries.Sublist entries ∨
      ∃ name contents, (name = d.temporary ∨ name = asset.name) ∧
        ((d.downloadInner asset).exec (opened nodes entries)).2.entries = holding name contents := by
  rcases hexec : (d.downloadInner asset).exec (opened nodes entries) with ⟨result, t⟩
  have h := (wp_downloadInner (d := d) asset rfl).of_exec hexec
  cases result with
  | ok package =>
    obtain ⟨contents, hentries, -⟩ := h.2.entries
    exact .inr ⟨asset.name, contents, .inr rfl, hentries⟩
  | error error =>
    rcases h.2 with hleft | hcleaned
    · rcases hleft.entries with hnone | ⟨name, contents, hname, -, hentries⟩
      · exact .inl (hnone ▸ nil_sublist _)
      · exact .inr ⟨name, contents, hname, hentries⟩
    · exact .inl hcleaned.entries

theorem acceptable_step {version : Version} {target : PackageTarget}
    (hname : expectedAssetName version target = some asset.name) (h : Acceptable entries) (d : Downloader) :
    Acceptable ((d.downloadInner asset).exec (opened nodes entries)).2.entries := by
  rcases entries_downloadInner d asset nodes entries with
    hsublist | ⟨name, contents, rfl | rfl, hentries⟩
  · exact h.sublist hsublist
  · exact hentries ▸ acceptable_holding (.inl temporary_starts)
  · exact hentries ▸ acceptable_holding (.inr (expectedAssetName_starts hname))

theorem acceptable_downloads {calls : List (Downloader × UpdateAsset)} {s : DownloadState}
    (hcalls : ∀ call ∈ calls, ∃ version target,
      expectedAssetName version target = some call.2.name)
    (h : Acceptable s.entries) : Acceptable (downloads calls s).entries := by
  induction calls generalizing s with
  | nil => exact h
  | cons call rest ih =>
    obtain ⟨⟨version, target, hname⟩, hrest⟩ := forall_mem_cons.mp hcalls
    exact ih hrest (acceptable_step hname h call.1)

end Calls

end Downloader

/-- Every URL that a call requests is trusted, and it makes three requests at most. A package that
it returns is in the cache with the size and the digest of the asset; a call that fails leaves its
temporary file only if removing it failed. The next call empties the cache after any calls for
packages of releases. -/
theorem Downloader.downloads_are_verified :
    (∀ (d : Downloader) (asset : UpdateAsset) nodes entries,
      let (result, t) := (d.downloadInner asset).exec (opened nodes entries)
      (∀ url ∈ t.requested, d.trust.schemeAllowed url.scheme = true ∧
        url.host.getD "" ∈ d.trust.approvedHosts ∧ url.username = "" ∧ url.password = none) ∧
      t.requested.length ≤ maxRedirects + 1 ∧
      (∀ package, result = .ok package → ∃ entry, t.entries = [entry] ∧
        package.path = joinPath d.cacheRoot entry.name ∧ entry.contents.length = asset.size ∧
        d.sha256 entry.contents = asset.sha256 ∧ t.written ≤ asset.size) ∧
      (∀ error, result = .error error → t.removalFailed = false →
        ∀ entry ∈ t.entries, entry.name = d.temporary → entry ∈ entries) ∧
      ∀ version target, expectedAssetName version target = some asset.name →
        ∀ entry ∈ t.entries, entry ∈ entries ∨ CacheEntry.removable entry = true) ∧
    ∀ (calls : List (Downloader × UpdateAsset)) nodes entries,
      (∀ call ∈ calls, ∃ version target, expectedAssetName version target = some call.2.name) →
      Acceptable entries →
      ∀ (next : Downloader), (∀ n, next.faults n = none) →
        ∃ t, next.clearCache.exec (downloads calls (opened nodes entries)) = (.ok ⟨⟩, t) ∧
          t.entries = [] := by
  refine ⟨fun d asset nodes entries => ?_, fun calls nodes entries hcalls hentries next hnext => ?_⟩
  · have hrequests := requests_downloadInner d asset nodes entries
    have hleaves := entries_downloadInner d asset nodes entries
    have hwp := wp_downloadInner (d := d) (s := opened nodes entries) asset rfl
    rcases hexec : (d.downloadInner asset).exec (opened nodes entries) with ⟨result, t⟩
    rw [hexec] at hrequests hleaves
    have hends := hwp.of_exec hexec
    obtain ⟨urls, hurls, hlength, htrusted⟩ := hrequests
    obtain rfl : t.requested = urls := hurls
    refine ⟨fun url hurl => ?_, hlength, ?_, ?_, fun version target hname entry hentry => ?_⟩
    · obtain ⟨hscheme, hhost, husername, hpassword⟩ := htrusted url hurl
      exact ⟨hscheme, hhost, husername, hpassword⟩
    · rintro package rfl
      obtain ⟨-, hwritten, rfl, contents, hentries, hsize, hdigest⟩ := hends
      exact ⟨_, hentries, rfl, hsize, hdigest, hwritten⟩
    · rintro error rfl hremoved entry hentry htemporary
      rcases hends.2 with ⟨-, hnone | ⟨name, contents, -, hfailed, hentries⟩⟩ | hcleaned
      · exact absurd (hnone ▸ hentry) not_mem_nil
      · obtain rfl := mem_singleton.mp (hentries ▸ hentry)
        exact absurd ((hfailed htemporary).symm.trans hremoved) nofun
      · exact hcleaned.entries.subset hentry
    · rcases hleaves with hsublist | ⟨name, contents, rfl | rfl, hentries⟩
      · exact .inl (hsublist.subset hentry)
      · exact .inr ((acceptable_holding (.inl temporary_starts)).removable entry (hentries ▸ hentry))
      · exact .inr ((acceptable_holding (.inr (expectedAssetName_starts hname))).removable entry
          (hentries ▸ hentry))
  · exact clearCache_of_acceptable hnext (acceptable_downloads hcalls hentries)

/-- A downloader that meets no failure, and is redirected once to a package of one byte. -/
def Downloader.redirectedOnce : Downloader where
  cacheRoot := ⟨"/cache"⟩
  trust := ⟨true, approvedAssetHosts⟩
  requireManagedLayout := true
  parseUrl := fun _ => some ⟨"https", some "github.com", "", none⟩
  sha256 := fun _ => Vector.replicate 32 0
  network := ⟨fun _ => false, fun index =>
    if index = 0 then .answer 302 (some "") [] else .answer 200 none [.data [7]]⟩
  faults := fun _ => none
  uuid := "0"

/-- The package of a release is downloaded, and the next call empties the cache. -/
theorem Downloader.downloads_are_verified_deb :
    ∃ t, redirectedOnce.clearCache.exec
      (downloads [(redirectedOnce, ⟨debAssetName ⟨0, 1, 0, "", ""⟩, "", 1, Vector.replicate 32 0⟩)]
        (opened (fun _ => some ⟨true, true, 0o755⟩) [])) = (.ok ⟨⟩, t) ∧ t.entries = [] := by
  refine downloads_are_verified.2 _ _ _ (forall_mem_singleton.mpr ⟨_, .deb, rfl⟩) ?_ _
    fun _ => rfl
  exact ⟨Nat.zero_le _, fun _ hmem => absurd hmem not_mem_nil⟩

end OverCrow.Control
