import Ppaass.Common.Bincode
import Ppaass.Common.Keys

/-!
# Generated keys are found

`Written` is what a call leaves that succeeds: in the directory of its user token, the two files of
one key pair. A call keeps what another wrote, also when it fails (`run_generate`, `Written.call`),
so that after a run every call that succeeded has its pair in place (`Provisions.written`). The loop
of a fetcher gives for a user token what its two files hold, if the token is the name of an entry
(`lookup_load`).

The generators separate the base directory from the user token and the fetchers do not. Where the
directory's string ends with a slash both mean the same files, and where it does not the fetchers
look beside the directory (`keys_found_iff`).
-/

namespace Ppaass

open Wire Framed Fs FileSystem

section
variable {libs : Libs} {keys : RsaKeys libs}

/-- PEM text is read back as the key it was written for. -/
structure RsaKeys.PemRoundTrips (keys : RsaKeys libs) : Prop where
  privateKey : ∀ k pem, keys.toPkcs8Pem k = .ok pem → keys.fromPkcs8Pem pem = .ok k
  publicKey : ∀ k pem, keys.toPublicKeyPem k = .ok pem → keys.fromPublicKeyPem pem = .ok k

/-! ## Files -/

namespace KeyOwner

def privateName : KeyOwner → String
  | .agent => DEFAULT_AGENT_PRIVATE_KEY_PATH
  | .proxy => DEFAULT_PROXY_PRIVATE_KEY_PATH

def publicName : KeyOwner → String
  | .agent => DEFAULT_AGENT_PUBLIC_KEY_PATH
  | .proxy => DEFAULT_PROXY_PUBLIC_KEY_PATH

def privateFile (owner : KeyOwner) : Name :=
  ⟨utf8 owner.privateName, by cases owner <;> decide +kernel⟩

def publicFile (owner : KeyOwner) : Name :=
  ⟨utf8 owner.publicName, by cases owner <;> decide +kernel⟩

theorem privateFile_ne_publicFile (o o' : KeyOwner) : o.privateFile ≠ o'.publicFile := by
  cases o <;> cases o' <;> decide +kernel

theorem privateFile_ne {o o' : KeyOwner} (h : o ≠ o') : o.privateFile ≠ o'.privateFile := by
  cases o <;> cases o' <;> first | exact absurd rfl h | decide +kernel

theorem publicFile_ne {o o' : KeyOwner} (h : o ≠ o') : o.publicFile ≠ o'.publicFile := by
  cases o <;> cases o' <;> first | exact absurd rfl h | decide +kernel

end KeyOwner

theorem KeyCall.run_eq (call : KeyCall libs) (d : String) :
    call.run keys d = generateRsaKeyPairs keys call.privateKey
      s!"{d}/{call.userToken}/{call.owner.privateName}"
      s!"{d}/{call.userToken}/{call.owner.publicName}" := by
  unfold KeyCall.run
  cases call.owner <;> rfl

/-- The directory the generators use for a user token. -/
def keyDir (d t : String) : Path :=
  (Path.parse (utf8 d ++ [SEP])).join (Path.components (utf8 t))

theorem utf8_sep : utf8 "/" = [SEP] := by decide +kernel

theorem ofString_generated (d t s : String) (name : Name) (hname : utf8 s = name.1) :
    Path.ofString s!"{d}/{t}/{s}" =
      if 0 ∈ utf8 d ∨ 0 ∈ utf8 t then .error "file name contained an unexpected NUL byte"
      else .ok ((keyDir d t).child name) := by
  have hbytes : utf8 s!"{d}/{t}/{s}" = utf8 d ++ SEP :: (utf8 t ++ SEP :: name.1) := by
    change utf8 (d ++ "/" ++ t ++ "/" ++ s) = _
    simp only [utf8_append, utf8_sep, hname, List.append_assoc, List.cons_append, List.nil_append]
  have hparse : Path.parse (utf8 d ++ SEP :: (utf8 t ++ SEP :: name.1)) =
      (keyDir d t).child name := by
    rw [Path.parse_append, Path.components_append, Path.components_name, Path.join,
      List.foldl_append]
    rfl
  have hnul : 0 ∈ utf8 d ++ SEP :: (utf8 t ++ SEP :: name.1) ↔ 0 ∈ utf8 d ∨ 0 ∈ utf8 t := by
    have hsep : (0 : UInt8) ≠ SEP := by decide
    simp [hsep, name.2.2.2]
  rw [Path.ofString, hbytes, Path.ofBytes, if_neg (by simp), hparse]
  simp only [hnul]

/-! ## The generators -/

/-- A directory holds the key pair of one side. -/
def Holds (keys : RsaKeys libs) (owner : KeyOwner) (privateKey : libs.RsaPrivateKey) (dir : Path)
    (fs : FileSystem) : Prop :=
  ∃ privatePem publicPem, keys.toPkcs8Pem privateKey = .ok privatePem ∧
    keys.toPublicKeyPem (keys.publicKey privateKey) = .ok publicPem ∧
    fs.node (dir.child owner.privateFile) = some (.file (utf8 privatePem)) ∧
    fs.node (dir.child owner.publicFile) = some (.file (utf8 publicPem))

def Written (keys : RsaKeys libs) (owner : KeyOwner) (dir : Path) (fs : FileSystem) : Prop :=
  ∃ privateKey, Holds keys owner privateKey dir fs

variable {fs fs' : FileSystem} {dir : Path} {name : Name} {d t : String}

theorem run_liftIo_ok {α : Type} {x : M StdIoError α} {a : α} (h : x.run fs = .ok a fs') :
    (liftIo x).run fs = .ok a fs' := by
  unfold EStateM.run at *
  simp only [liftIo, EStateM.adaptExcept, h]

theorem run_liftIo_error {α : Type} {x : M StdIoError α} {e : StdIoError}
    (h : x.run fs = .error e fs') : (liftIo x).run fs = .error (.err (.io e)) fs' := by
  unfold EStateM.run at *
  simp only [liftIo, EStateM.adaptExcept, h]

theorem run_writeKey_of_error {path pem : String} {e : StdIoError}
    (hpath : Path.ofString path = .error e) :
    (writeKey path pem).run fs = .error (.err (.io e)) fs := by
  unfold writeKey
  rw [hpath]
  rfl

/-- A key is written, or there was no file at its path. -/
theorem run_writeKey {path : String} (hpath : Path.ofString path = .ok (dir.child name))
    (pem : String) (fs : FileSystem) :
    (∃ fs', (writeKey path pem).run fs = .ok () fs' ∧ Changes [dir.child name] fs fs' ∧
      fs'.node (dir.child name) = some (.file (utf8 pem))) ∨
    ((∀ old, fs.node (dir.child name) ≠ some (.file old)) ∧
      ∃ e fs', (writeKey path pem).run fs = .error e fs' ∧ Changes [dir.child name] fs fs') := by
  have hrun : (writeKey path pem).run fs = (liftIo do
      if (fs.node dir).isNone then createDirAll dir
      write (dir.child name) (utf8 pem)).run fs := by
    unfold writeKey
    rw [hpath]
    rfl
  rw [hrun]
  cases hdir : fs.node dir with
  | some n =>
    simp only [Option.isNone_some, Bool.false_eq_true, if_false]
    obtain ⟨fs', hw, hch, hnew⟩ | ⟨hold, e, hw⟩ := run_write dir name (utf8 pem) fs
    · exact .inl ⟨fs', run_liftIo_ok hw, hch, hnew⟩
    · exact .inr ⟨hold, .err (.io e), fs, run_liftIo_error hw, .refl _ _⟩
  | none =>
    have hfile : ∀ old, fs.node (dir.child name) ≠ some (.file old) := by
      intro old hold
      rw [node_dir hold] at hdir
      cases hdir
    simp only [Option.isNone_none, if_true]
    obtain ⟨fs₁, hc, hext, -⟩ | ⟨e, hc⟩ := run_createDirAll dir fs
    · have hcreated := hext.changes (Path.le_child name (Path.le_refl dir))
      obtain ⟨fs', hw, hch, hnew⟩ | ⟨-, e, hw⟩ := run_write dir name (utf8 pem) fs₁
      · refine .inl ⟨fs', run_liftIo_ok ?_, hcreated.trans hch, hnew⟩
        rw [EStateM.run_bind, hc]
        exact hw
      · refine .inr ⟨hfile, .err (.io e), fs₁, run_liftIo_error ?_, hcreated⟩
        rw [EStateM.run_bind, hc]
        exact hw
    · refine .inr ⟨hfile, .err (.io e), fs, run_liftIo_error ?_, .refl _ _⟩
      rw [EStateM.run_bind, hc]

/-- Two keys are written into one directory, or one of the files was not there. -/
theorem run_writeKeys {path path' : String} {name' : Name}
    (hpath : Path.ofString path = .ok (dir.child name))
    (hpath' : Path.ofString path' = .ok (dir.child name')) (hne : name ≠ name')
    (pem pem' : String) (fs : FileSystem) :
    (∃ fs', (writeKey path pem >>= fun _ => writeKey path' pem').run fs = .ok () fs' ∧
      Changes [dir.child name, dir.child name'] fs fs' ∧
      fs'.node (dir.child name) = some (.file (utf8 pem)) ∧
      fs'.node (dir.child name') = some (.file (utf8 pem'))) ∨
    ∃ e fs', (writeKey path pem >>= fun _ => writeKey path' pem').run fs = .error e fs' ∧
      Changes [dir.child name, dir.child name'] fs fs' ∧
      ∀ old old', fs.node (dir.child name) = some (.file old) →
        fs.node (dir.child name') ≠ some (.file old') := by
  have hfirst : ∀ p ∈ [dir.child name], p ∈ [dir.child name, dir.child name'] := by simp
  have hsecond : ∀ p ∈ [dir.child name'], p ∈ [dir.child name, dir.child name'] := by simp
  rw [EStateM.run_bind]
  obtain ⟨fs₁, h₁, hch₁, hnew₁⟩ | ⟨hold, e, fs₁, h₁, hch₁⟩ := run_writeKey hpath pem fs
  · rw [h₁]
    obtain ⟨fs₂, h₂, hch₂, hnew₂⟩ | ⟨hold', e, fs₂, h₂, hch₂⟩ := run_writeKey hpath' pem' fs₁
    · have hkept := hch₂.keeps _ _ (by simpa using hne) hnew₁
      exact .inl ⟨fs₂, h₂, (hch₁.mono hfirst).trans (hch₂.mono hsecond), hkept, hnew₂⟩
    · refine .inr ⟨e, fs₂, h₂, (hch₁.mono hfirst).trans (hch₂.mono hsecond), ?_⟩
      intro old old' _ h'
      exact hold' old' (hch₁.keeps _ _ (by simpa using hne.symm) h')
  · rw [h₁]
    exact .inr ⟨e, fs₁, rfl, hch₁.mono hfirst, fun old _ h => absurd h (hold old)⟩

/-- The two files of a call. -/
def files (owner : KeyOwner) (dir : Path) : List Path :=
  [dir.child owner.privateFile, dir.child owner.publicFile]

/-- A call writes a key pair, or it fails and leaves a pair that is there. -/
theorem run_generate (keys : RsaKeys libs) (call : KeyCall libs) (d : String) (fs : FileSystem) :
    (∃ fs', (call.run keys d).run fs = .ok () fs' ∧
      Changes (files call.owner (keyDir d call.userToken)) fs fs' ∧
      Written keys call.owner (keyDir d call.userToken) fs' ∧
      0 ∉ utf8 d ∧ 0 ∉ utf8 call.userToken) ∨
    ∃ e fs', (call.run keys d).run fs = .error e fs' ∧
      Changes (files call.owner (keyDir d call.userToken)) fs fs' ∧
      (Written keys call.owner (keyDir d call.userToken) fs →
        Written keys call.owner (keyDir d call.userToken) fs') := by
  rw [call.run_eq, generateRsaKeyPairs]
  cases call.privateKey with
  | error e => exact .inr ⟨_, fs, rfl, .refl _ _, id⟩
  | ok privateKey =>
  simp only [expect, pure_bind]
  cases hprivate : keys.toPkcs8Pem privateKey with
  | error e => exact .inr ⟨_, fs, rfl, .refl _ _, id⟩
  | ok privatePem =>
  cases hpublic : keys.toPublicKeyPem (keys.publicKey privateKey) with
  | error e => exact .inr ⟨_, fs, rfl, .refl _ _, id⟩
  | ok publicPem =>
  simp only [pure_bind]
  have hpath := ofString_generated d call.userToken _ call.owner.privateFile rfl
  have hpath' := ofString_generated d call.userToken _ call.owner.publicFile rfl
  by_cases hnul : 0 ∈ utf8 d ∨ 0 ∈ utf8 call.userToken
  · rw [if_pos hnul] at hpath
    refine .inr ⟨.err (.io "file name contained an unexpected NUL byte"), fs, ?_, .refl _ _, id⟩
    rw [EStateM.run_bind, run_writeKey_of_error hpath]
  · rw [if_neg hnul] at hpath hpath'
    obtain ⟨fs', hrun, hch, hnew, hnew'⟩ | ⟨e, fs', hrun, hch, hold⟩ := run_writeKeys hpath hpath'
      (call.owner.privateFile_ne_publicFile call.owner) privatePem publicPem fs
    · exact .inl ⟨fs', hrun, hch, ⟨privateKey, privatePem, publicPem, hprivate, hpublic, hnew,
        hnew'⟩, not_or.1 hnul⟩
    · refine .inr ⟨e, fs', hrun, hch, ?_⟩
      intro ⟨_, _, _, _, _, hfile, hfile'⟩
      exact absurd hfile' (hold _ _ hfile)

theorem generate_ok {call : KeyCall libs} (h : (call.run keys d).run fs = .ok () fs') :
    Changes (files call.owner (keyDir d call.userToken)) fs fs' ∧
      Written keys call.owner (keyDir d call.userToken) fs' ∧
      0 ∉ utf8 d ∧ 0 ∉ utf8 call.userToken := by
  obtain ⟨fs₁, hrun, hok⟩ | ⟨e, fs₁, hrun, -⟩ := run_generate keys call d fs
  · rw [h] at hrun
    cases hrun
    exact hok
  · rw [h] at hrun
    cases hrun

theorem generate_error {call : KeyCall libs} {e : Fault CommonError}
    (h : (call.run keys d).run fs = .error e fs') :
    Changes (files call.owner (keyDir d call.userToken)) fs fs' ∧
      (Written keys call.owner (keyDir d call.userToken) fs →
        Written keys call.owner (keyDir d call.userToken) fs') := by
  obtain ⟨fs₁, hrun, -⟩ | ⟨e, fs₁, hrun, herror⟩ := run_generate keys call d fs
  · rw [h] at hrun
    cases hrun
  · rw [h] at hrun
    cases hrun
    exact herror

theorem not_mem_files {o o' : KeyOwner} {dir' : Path} (h : o ≠ o' ∨ dir ≠ dir') :
    dir.child o.privateFile ∉ files o' dir' ∧ dir.child o.publicFile ∉ files o' dir' := by
  have hchild : ∀ {file file' : Name}, (o ≠ o' → file ≠ file') →
      dir.child file ≠ dir'.child file' := by
    intro file file' hfile heq
    obtain ⟨hdir, heq⟩ := Path.child.inj heq
    exact h.elim (fun ho => hfile ho heq) (absurd hdir)
  have hprivate := hchild KeyOwner.privateFile_ne
  have hpublic := hchild KeyOwner.publicFile_ne
  have hmixed := hchild fun _ => o.privateFile_ne_publicFile o'
  have hmixed' := hchild fun _ => (o'.privateFile_ne_publicFile o).symm
  simp only [files, List.mem_cons, List.not_mem_nil, or_false, not_or]
  exact ⟨⟨hprivate, hmixed⟩, hmixed', hpublic⟩

/-- A call keeps the pair of another side or of another directory. -/
theorem Written.other {o o' : KeyOwner} {dir' : Path} (h : Written keys o dir fs)
    (hne : o ≠ o' ∨ dir ≠ dir') (hch : Changes (files o' dir') fs fs') :
    Written keys o dir fs' := by
  obtain ⟨privateKey, privatePem, publicPem, hprivate, hpublic, hfile, hfile'⟩ := h
  obtain ⟨hmem, hmem'⟩ := not_mem_files hne
  exact ⟨privateKey, privatePem, publicPem, hprivate, hpublic, hch.keeps _ _ hmem hfile,
    hch.keeps _ _ hmem' hfile'⟩

/-! ## Runs -/

/-- What a run has done: every call that succeeded has its pair in place. -/
structure Provisioned (keys : RsaKeys libs) (d : String) (calls : List (KeyCall libs))
    (fs : FileSystem) : Prop where
  written : ∀ call ∈ calls, Written keys call.owner (keyDir d call.userToken) fs
  nulFree : ∀ call ∈ calls, 0 ∉ utf8 d ∧ 0 ∉ utf8 call.userToken

theorem Written.call {o : KeyOwner} (h : Written keys o dir fs) (call : KeyCall libs)
    (hch : Changes (files call.owner (keyDir d call.userToken)) fs fs')
    (hsame : Written keys call.owner (keyDir d call.userToken) fs →
      Written keys call.owner (keyDir d call.userToken) fs') : Written keys o dir fs' := by
  by_cases hne : o ≠ call.owner ∨ dir ≠ keyDir d call.userToken
  · exact h.other hne hch
  · obtain ⟨ho, hdir⟩ := not_or.1 hne
    rw [not_not] at ho hdir
    rw [ho, hdir] at h ⊢
    exact hsame h

theorem Provisions.provisioned {calls : List (KeyCall libs)}
    (h : Provisions keys d fs calls fs') : Provisioned keys d calls fs' := by
  induction h with
  | nil => exact ⟨by simp, by simp⟩
  | succeeded _ hrun ih =>
    obtain ⟨hch, hnew, hnul⟩ := generate_ok hrun
    constructor
    · intro c hc
      obtain hc | hc := List.mem_append.1 hc
      · exact (ih.written c hc).call _ hch fun _ => hnew
      · rw [List.mem_singleton.1 hc]
        exact hnew
    · intro c hc
      obtain hc | hc := List.mem_append.1 hc
      · exact ih.nulFree c hc
      · rw [List.mem_singleton.1 hc]
        exact hnul
  | failed _ hrun ih =>
    obtain ⟨hch, hsame⟩ := generate_error hrun
    exact ⟨fun c hc => (ih.written c hc).call _ hch hsame, ih.nulFree⟩

theorem keyDir_eq (hd : utf8 d ≠ []) (t : String) :
    keyDir d t = (Path.parse (utf8 d)).join (Path.components (utf8 t)) := by
  rw [keyDir, Path.parse_sep hd]

/-- The file system holds one directory, with what is in it and what is on the way to it. -/
def OnlyDir (fs : FileSystem) (rsaDir : String) : Prop :=
  ∀ base, Path.ofString rsaDir = .ok base → fs.OnlyOn base

/-- Calls write in the base directory only. -/
theorem Provisions.onlyDir {calls : List (KeyCall libs)} (h : Provisions keys d fs calls fs')
    (hfs : OnlyDir fs d) : OnlyDir fs' d := by
  intro base hpath
  obtain ⟨hne, -, rfl⟩ := Path.of_ofString hpath
  have hfiles : ∀ (o : KeyOwner) (t : String), ∀ p ∈ files o (keyDir d t),
      Path.parse (utf8 d) ≤ p := by
    intro o t p hp
    have hdir : Path.parse (utf8 d) ≤ keyDir d t := keyDir_eq hne t ▸ Path.le_join _ _
    simp only [files, List.mem_cons, List.not_mem_nil, or_false] at hp
    obtain rfl | rfl := hp <;> exact Path.le_child _ hdir
  induction h with
  | nil => exact hfs _ hpath
  | succeeded _ hrun ih => exact ih.changes (hfiles _ _) (generate_ok hrun).1
  | failed _ hrun ih => exact ih.changes (hfiles _ _) (generate_error hrun).1

/-! ## The fetchers -/

theorem utf8_fetched (d t s : String) :
    utf8 s!"{d}{t}/{s}" = utf8 d ++ utf8 t ++ SEP :: utf8 s := by
  change utf8 (d ++ t ++ "/" ++ s) = _
  simp only [utf8_append, utf8_sep, List.append_assoc, List.cons_append, List.nil_append]

theorem fileOpen_eq {path : String} {p : Path} {content : Bytes} (hne : utf8 path ≠ [])
    (hnul : 0 ∉ utf8 path) (hp : Path.parse (utf8 path) = p)
    (hnode : fs.node p = some (.file content)) : fileOpen fs path = .ok (.ok content) := by
  rw [fileOpen, Path.ofString_eq hne hnul, hp]
  change fs.openFile p = _
  rw [openFile, hnode]

theorem fileOpen_none {path : String} (hnode : fs.node (Path.parse (utf8 path)) = none) :
    (fileOpen fs path).toOption = none := by
  unfold fileOpen Path.ofString Path.ofBytes
  split
  · rfl
  split
  · rfl
  · change (fs.openFile _).toOption = none
    rw [openFile, hnode]
    rfl

theorem new_of_pem (hpem : keys.PemRoundTrips) {k : libs.RsaPrivateKey} {k' : libs.RsaPublicKey}
    {privatePem publicPem : String} (hprivate : keys.toPkcs8Pem k = .ok privatePem)
    (hpublic : keys.toPublicKeyPem k' = .ok publicPem) :
    RsaCrypto.new keys (.ok (utf8 publicPem)) (.ok (utf8 privatePem)) = .ok ⟨k, k'⟩ := by
  have hread : ∀ s : String, readToString (.ok (utf8 s)) = .ok s := by
    intro s
    unfold readToString
    simp only [bind, Except.bind, ofUtf8_utf8]
    rfl
  unfold RsaCrypto.new
  rw [hread, hread]
  simp only [Except.mapError, bind, Except.bind, hpem.publicKey _ _ hpublic,
    hpem.privateKey _ _ hprivate]
  rfl

/-- Where the strings of the generators and of the fetchers mean the same directory, a fetcher reads
its own private key and the public key of the other side. -/
theorem readKeys_eq (hpem : keys.PemRoundTrips) {o o' : KeyOwner} {k k' : libs.RsaPrivateKey}
    (hd : (utf8 d).getLast? = some SEP) (hdnul : 0 ∉ utf8 d) (hname : name.1 = utf8 t)
    (h : Holds keys o k ((Path.parse (utf8 d)).child name) fs)
    (h' : Holds keys o' k' ((Path.parse (utf8 d)).child name) fs) :
    readKeys keys fs d o'.publicName o.privateName t = some ⟨k, keys.publicKey k'⟩ := by
  obtain ⟨privatePem, _, hprivate, -, hfile, -⟩ := h
  obtain ⟨_, publicPem, -, hpublic, -, hfile'⟩ := h'
  have hopen : ∀ (s : String) (file : Name) (content : Bytes), utf8 s = file.1 →
      fs.node (((Path.parse (utf8 d)).child name).child file) = some (.file content) →
      fileOpen fs s!"{d}{t}/{s}" = .ok (.ok content) := by
    intro s file content hs hnode
    have hbytes : utf8 s!"{d}{t}/{s}" = utf8 d ++ name.1 ++ SEP :: file.1 := by
      rw [utf8_fetched, hname, hs]
    have hsep : (0 : UInt8) ≠ SEP := by decide
    refine fileOpen_eq ?_ ?_ ?_ hnode
    · rw [hbytes]
      simp
    · rw [hbytes]
      simp [hdnul, name.2.2.2, file.2.2.2, hsep]
    · rw [hbytes, Path.parse_append_file (.inr hd)]
  rw [readKeys, hopen _ o'.publicFile _ rfl hfile', hopen _ o.privateFile _ rfl hfile]
  simp only [Except.toOption, Option.bind_eq_bind, Option.bind_some,
    new_of_pem hpem hprivate hpublic]

/-- Without the slash a fetcher looks beside the directory. -/
theorem readKeys_beside {publicName privateName : String} (file : Name) (hd : utf8 d ≠ [])
    (hslash : (utf8 d).getLast? ≠ some SEP) (hdnul : 0 ∉ utf8 d) (hname : name.1 = utf8 t)
    (hfile : utf8 publicName = file.1) (hfs : fs.OnlyOn (Path.parse (utf8 d))) :
    readKeys keys fs d publicName privateName t = none := by
  obtain ⟨front, last, hfront, hclosed, hlast, hsep⟩ := Path.exists_last hd hslash
  rw [hfront, List.mem_append, not_or] at hdnul
  -- the directory's own name, and the name the fetcher makes of it and the token
  let own : Name := ⟨last, hlast, hsep, hdnul.2⟩
  let beside : Name := ⟨last ++ name.1, by simp [hlast], by simp [hsep, name.2.2.1],
    by simp [hdnul.2, name.2.2.2]⟩
  have hne : beside ≠ own := by
    intro h
    have hnil := List.append_right_eq_self.1 (congrArg Subtype.val h)
    exact name.2.1 hnil
  have hbase : Path.parse (utf8 d) = (Path.parse front).child own := by
    rw [hfront]
    exact Path.parse_append_name hclosed own
  have hpath : Path.parse (utf8 s!"{d}{t}/{publicName}") =
      ((Path.parse front).child beside).child file := by
    rw [utf8_fetched, hfront, ← hname, hfile, List.append_assoc front]
    exact Path.parse_append_file hclosed beside file
  rw [hbase] at hfs
  rw [readKeys, fileOpen_none (by rw [hpath]; exact hfs.node_sibling hne)]
  rfl

/-- **The loop of a fetcher**: a user token has the keys in its two files, if it is the name of an
entry. What the other entries are does not matter. -/
theorem lookup_load {publicName privateName : String} {crypto : RsaCrypto libs}
    (entries : List (Except StdIoError Bytes)) :
    (entries.foldl (loadEntry keys fs d publicName privateName) ∅).lookup t = some crypto ↔
      .ok (utf8 t) ∈ entries ∧ readKeys keys fs d publicName privateName t = some crypto := by
  induction entries using List.reverseRecOn with
  | nil => simp
  | append_singleton entries entry ih =>
    rw [List.foldl_append, List.foldl_cons, List.foldl_nil, List.mem_append, List.mem_singleton]
    generalize entries.foldl (loadEntry keys fs d publicName privateName) ∅ = cache at ih
    by_cases hentry : entry = .ok (utf8 t)
    · subst hentry
      simp only [loadEntry, ofUtf8_utf8]
      cases hread : readKeys keys fs d publicName privateName t with
      | none => simp [ih, hread]
      | some crypto' => simp [AList.lookup_insert]
    · have hother : (loadEntry keys fs d publicName privateName cache entry).lookup t =
          cache.lookup t := by
        unfold loadEntry
        split
        · rfl
        split
        · rfl
        · rename_i fileName _ userToken htoken
          split
          · rfl
          · refine AList.lookup_insert_ne ?_
            rintro rfl
            exact hentry (by rw [utf8_of_ofUtf8 htoken])
      rw [hother, ih]
      simp [Ne.symm hentry]

/-! ## Both sides -/

/-- What is encrypted with the public key of a private key is decrypted with that. -/
def RsaKeys.Decrypts (keys : RsaKeys libs) : Prop :=
  ∀ privateKey rng (target encrypted : Bytes),
    libs.rsaEncrypt (keys.publicKey privateKey) rng target = .ok encrypted →
      libs.rsaDecrypt privateKey encrypted = .ok target

/-- Whatever reading the directory gives, both fetchers have keys for the user token, and the public
key of each belongs to the private key of the other. -/
def KeysFound (keys : RsaKeys libs) (fs : FileSystem) (rsaDir userToken : String) : Prop :=
  ∀ r r', fs.ReadDir (Path.ofString rsaDir) r → fs.ReadDir (Path.ofString rsaDir) r' →
    ∃ agent proxy a p, Agent.AgentServerRsaCryptoFetcher.new keys fs rsaDir r = .ok agent ∧
      Proxy.ProxyServerRsaCryptoFetcher.new keys fs rsaDir r' = .ok proxy ∧
      agent.fetch userToken = .ok (some a) ∧ proxy.fetch userToken = .ok (some p) ∧
      a.publicKey = keys.publicKey p.privateKey ∧ p.publicKey = keys.publicKey a.privateKey

/-- Both generators have succeeded for the user token. -/
def Generated (calls : List (KeyCall libs)) (t : String) : Prop :=
  ∀ owner, ∃ call ∈ calls, call.owner = owner ∧ call.userToken = t

/-- The string of the directory ends with a slash, and the user token is a file name. -/
structure Named (rsaDir userToken : String) : Prop where
  slash : (utf8 rsaDir).getLast? = some SEP
  ne_nil : utf8 userToken ≠ []
  noSlash : SEP ∉ utf8 userToken
  ne_dot : utf8 userToken ≠ utf8 "."
  ne_dots : utf8 userToken ≠ utf8 ".."

variable {calls : List (KeyCall libs)}

theorem keysFound_of_named (hpem : keys.PemRoundTrips) (hrun : Provisioned keys d calls fs)
    (hgen : Generated calls t) (hn : Named d t) : KeysFound keys fs d t := by
  have hd : utf8 d ≠ [] := by
    intro h
    have hslash := hn.slash
    simp [h] at hslash
  have hnul : 0 ∉ utf8 d ∧ 0 ∉ utf8 t := by
    obtain ⟨call, hmem, -, rfl⟩ := hgen .agent
    exact hrun.nulFree call hmem
  let name : Name := ⟨utf8 t, hn.ne_nil, hn.noSlash, hnul.2⟩
  have hdir : keyDir d t = (Path.parse (utf8 d)).child name := by
    rw [keyDir_eq hd, Path.components_name name]
    rfl
  have hpath : Path.ofString d = .ok (Path.parse (utf8 d)) := Path.ofString_eq hd hnul.1
  have hholds : ∀ o, ∃ k, Holds keys o k ((Path.parse (utf8 d)).child name) fs := by
    intro o
    obtain ⟨call, hmem, rfl, rfl⟩ := hgen o
    rw [← hdir]
    exact hrun.written call hmem
  obtain ⟨k, hk⟩ := hholds .agent
  obtain ⟨k', hk'⟩ := hholds .proxy
  have hentry : fs.node ((Path.parse (utf8 d)).child name) = some .directory :=
    node_dir hk.choose_spec.choose_spec.2.2.1
  have hlisted : ∀ entries, fs.Lists (Path.parse (utf8 d)) entries → .ok (utf8 t) ∈ entries := by
    intro entries hentries
    exact (hentries _).2 ⟨hn.ne_dot, hn.ne_dots, name, rfl, by rw [hentry]; rfl⟩
  intro r r' hr hr'
  obtain ⟨entries, rfl, hentries⟩ := hr.entries hpath (node_dir hentry)
  obtain ⟨entries', rfl, hentries'⟩ := hr'.entries hpath (node_dir hentry)
  have hagent := lookup_load entries |>.2 ⟨hlisted _ hentries,
    readKeys_eq hpem hn.slash hnul.1 rfl hk hk'⟩
  have hproxy := lookup_load entries' |>.2 ⟨hlisted _ hentries',
    readKeys_eq hpem hn.slash hnul.1 rfl hk' hk⟩
  exact ⟨_, _, _, _, rfl, rfl, congrArg Except.ok hagent, congrArg Except.ok hproxy, rfl, rfl⟩

theorem named_of_keysFound (hd : OnlyDir fs d) (h : KeysFound keys fs d t) : Named d t := by
  obtain ⟨r, hr⟩ := fs.exists_readDir (Path.ofString d)
  obtain ⟨agent, _, a, _, hnew, -, hfetch, -⟩ := h r r hr hr
  cases hr with
  | error _ => cases hnew
  | @ok dir entries hpath hdir hentries =>
    cases hnew
    obtain ⟨hmem, hread⟩ := (lookup_load entries).1 (Except.ok.inj hfetch)
    obtain ⟨hdot, hdots, name, hname, -⟩ := (hentries _).1 hmem
    have hbase := hd dir hpath
    obtain ⟨hne, hnul, rfl⟩ := Path.of_ofString hpath
    refine ⟨?_, hname ▸ name.2.1, hname ▸ name.2.2.1, hdot, hdots⟩
    by_contra hslash
    have hnone : readKeys keys fs d "ProxyPublicKey.pem" "AgentPrivateKey.pem" t = none :=
      readKeys_beside (KeyOwner.publicFile .proxy) hne hslash hnul hname rfl hbase
    rw [hnone] at hread
    cases hread

/-- **Generated keys are found** by both sides, if the directory's string ends with a slash and the
user token is a file name, and in a directory on its own only then. -/
theorem keys_found_iff (hpem : keys.PemRoundTrips) (hrun : Provisions keys d fs calls fs') :
    (∀ t, Generated calls t → Named d t → KeysFound keys fs' d t) ∧
    (OnlyDir fs d → ∀ t, Generated calls t → (KeysFound keys fs' d t ↔ Named d t)) := by
  have hfound := fun t hgen => keysFound_of_named (t := t) hpem hrun.provisioned hgen
  exact ⟨hfound, fun hd t hgen => ⟨named_of_keysFound (hrun.onlyDir hd), hfound t hgen⟩⟩

/-- Keys that are found are what the codecs need: each side decrypts what the other encrypts. -/
theorem KeysFound.pairedAt (h : KeysFound keys fs d t) (hdec : keys.Decrypts)
    {r r' : Except StdIoError (List (Except StdIoError Bytes))}
    (hr : fs.ReadDir (Path.ofString d) r) (hr' : fs.ReadDir (Path.ofString d) r') :
    ∃ agent proxy, Agent.AgentServerRsaCryptoFetcher.new keys fs d r = .ok agent ∧
      Proxy.ProxyServerRsaCryptoFetcher.new keys fs d r' = .ok proxy ∧
      PairedAt agent.fetch proxy.fetch t ∧ PairedAt proxy.fetch agent.fetch t := by
  have hcrypto : ∀ s r : RsaCrypto libs, s.publicKey = keys.publicKey r.privateKey →
      ∀ rng token encrypted, s.encrypt rng token = .ok encrypted →
        r.decrypt encrypted = .ok token := by
    intro s r hkey rng token encrypted hencrypt
    unfold RsaCrypto.encrypt at hencrypt
    rw [hkey] at hencrypt
    cases hlib : libs.rsaEncrypt (keys.publicKey r.privateKey) rng token with
    | error e =>
      rw [hlib] at hencrypt
      cases hencrypt
    | ok c =>
      rw [hlib] at hencrypt
      cases hencrypt
      rw [RsaCrypto.decrypt, hdec _ _ _ _ hlib]
      rfl
  obtain ⟨agent, proxy, a, p, hnew, hnew', hfetch, hfetch', hkey, hkey'⟩ := h r r' hr hr'
  exact ⟨agent, proxy, hnew, hnew', ⟨a, p, hfetch, hfetch', hcrypto a p hkey⟩,
    ⟨p, a, hfetch', hfetch, hcrypto p a hkey'⟩⟩

end

/-! ## Two calls for one user -/

namespace Reference

/-- `libs` with RSA keys that are told apart by a number. -/
def numbered : Libs :=
  { libs with
    RsaPublicKey := Nat
    RsaPrivateKey := Nat
    rsaEncrypt := fun _ => libs.rsaEncrypt ()
    rsaDecrypt := fun _ => libs.rsaDecrypt () }

def pemHead (label : String) : String := "-----BEGIN " ++ label ++ "-----\r\n"

def pemTail (label : String) : String := "\r\n-----END " ++ label ++ "-----\r\n"

/-- PEM text. -/
def pemText (label : String) (key : Nat) : String :=
  pemHead label ++ String.ofList (List.replicate key 'A') ++ pemTail label

def ofPemText (label text : String) : Except String Nat :=
  let key := text.length - (pemText label 0).length
  if text = pemText label key then .ok key else .error "PEM error"

theorem ofPemText_pemText (label : String) (key : Nat) :
    ofPemText label (pemText label key) = .ok key := by
  have hlen : ∀ n, (pemText label n).length =
      (pemHead label).length + n + (pemTail label).length := by
    intro n
    rw [pemText, String.length_append, String.length_append, String.length_ofList,
      List.length_replicate]
  have hkey : (pemText label key).length - (pemText label 0).length = key := by
    rw [hlen, hlen]
    omega
  rw [ofPemText, hkey]
  exact if_pos rfl

def rsaKeys : RsaKeys numbered where
  publicKey key := key
  toPkcs8Pem key := .ok (pemText "PRIVATE KEY" key)
  toPublicKeyPem key := .ok (pemText "PUBLIC KEY" key)
  fromPkcs8Pem := ofPemText "PRIVATE KEY"
  fromPublicKeyPem := ofPemText "PUBLIC KEY"

theorem pemRoundTrips : rsaKeys.PemRoundTrips where
  privateKey k pem h := by
    cases h
    exact ofPemText_pemText _ k
  publicKey k pem h := by
    cases h
    exact ofPemText_pemText _ k

/-- The two calls of the tool for a user. -/
def toolCalls : List (KeyCall numbered) :=
  [⟨.agent, "user1", .ok (1 : Nat)⟩] ++ [⟨.proxy, "user1", .ok (2 : Nat)⟩]

theorem generated_toolCalls : Generated toolCalls "user1" := by
  intro owner
  cases owner
  · exact ⟨_, List.mem_cons_self, rfl, rfl⟩
  · exact ⟨_, List.mem_cons_of_mem _ List.mem_cons_self, rfl, rfl⟩

theorem onlyDir_empty (d : String) : OnlyDir .empty d := by
  intro base _ dir name h
  cases h

/-- Whether a call succeeds. -/
def succeeds {α : Type} (r : EStateM.Result (Fault CommonError) FileSystem α) : Bool :=
  match r with
  | .ok _ _ => true
  | .error _ _ => false

theorem exists_run {x : FileSystem.M (Fault CommonError) Unit} {fs : FileSystem}
    (h : succeeds (x.run fs) = true) : ∃ fs', x.run fs = .ok () fs' := by
  cases hrun : x.run fs with
  | ok _ fs' => exact ⟨fs', rfl⟩
  | error e fs' =>
    rw [hrun] at h
    cases h

theorem exists_provisions {d : String} (h : succeeds ((do
    generateAgentKeyPairs rsaKeys d "user1" (.ok (1 : Nat))
    generateProxyKeyPairs rsaKeys d "user1" (.ok (2 : Nat))).run .empty) = true) :
    ∃ fs, Provisions rsaKeys d .empty toolCalls fs := by
  obtain ⟨fs, hrun⟩ := exists_run h
  rw [EStateM.run_bind] at hrun
  cases hagent : (generateAgentKeyPairs rsaKeys d "user1" (.ok (1 : Nat))).run .empty with
  | ok _ fs₁ =>
    rw [hagent] at hrun
    have hfirst : Provisions rsaKeys d .empty ([] ++ [⟨.agent, "user1", .ok (1 : Nat)⟩]) fs₁ :=
      .succeeded .nil hagent
    exact ⟨fs, .succeeded hfirst hrun⟩
  | error e fs₁ =>
    rw [hagent] at hrun
    cases hrun

theorem keys_found_slash : ∃ fs, Provisions rsaKeys "rsa/" .empty toolCalls fs ∧
    KeysFound rsaKeys fs "rsa/" "user1" := by
  obtain ⟨fs, hrun⟩ := exists_provisions (d := "rsa/") (by decide +kernel)
  have hiff := (keys_found_iff pemRoundTrips hrun).2 (onlyDir_empty "rsa/")
  refine ⟨fs, hrun, (hiff "user1" generated_toolCalls).2 ?_⟩
  constructor <;> decide +kernel

/-- Without the slash the files are where they are with it, and no fetcher finds them. -/
theorem keys_not_found : ∃ fs, Provisions rsaKeys "rsa" .empty toolCalls fs ∧
    Generated toolCalls "user1" ∧ ¬KeysFound rsaKeys fs "rsa" "user1" := by
  obtain ⟨fs, hrun⟩ := exists_provisions (d := "rsa") (by decide +kernel)
  refine ⟨fs, hrun, generated_toolCalls, fun h => ?_⟩
  have hslash := (named_of_keysFound (hrun.onlyDir (onlyDir_empty "rsa")) h).slash
  revert hslash
  decide +kernel

end Reference

end Ppaass
