import ImportChart.Proofs.Path.Rooted
import ImportChart.Proofs.Settings.Session

/-!
# The endings that are set are the endings that are read

A list of endings is given as one text, kept in the settings document and loaded again. A scan compares its items with
the ending of a file name, which is found by another rule. Through all of this the same words are meant.

- `Listed`: an ending in the text, in any of the ways to write it;
- `Path.suffix_append`: the ending of a file name is the word behind its last point;
- `parseItems_listText`, `extensionOf_written`: what becomes of the endings that are listed;
- `set_extensions_reads`: a scan by these settings reads the files with one of these endings.
-/

namespace ImportChart

/-- **The ending of a file name is the word behind its last point**, if anything stands in front of the point. -/
theorem Path.suffix_append {stem w : Text} (hname : Path.IsComponent (stem ++ '.' :: w)) (hstem : stem ≠ [])
    (hw : w ≠ []) (hpoint : '.' ∉ w) : Path.suffix (stem ++ '.' :: w) = '.' :: w := by
  have hcomponents : Path.components (stem ++ '.' :: w) = [stem ++ '.' :: w] :=
    Path.components_joinComponents (List.forall_mem_singleton.mpr hname)
  have hlast : Path.lastComponent (stem ++ '.' :: w) = stem ++ '.' :: w := by
    rw [Path.lastComponent, hcomponents]
    rfl
  have hending : ((stem ++ '.' :: w).reverse.takeWhile (· ≠ '.')).reverse = w := by
    have hkept : ∀ c ∈ w.reverse, decide (c ≠ '.') = true := by
      intro c hc
      exact decide_eq_true fun heq => hpoint (heq ▸ List.mem_reverse.mp hc)
    rw [List.reverse_append, List.reverse_cons, List.append_assoc, List.takeWhile_append_of_pos hkept,
      List.singleton_append, List.takeWhile_cons_of_neg (by simp), List.append_nil, List.reverse_reverse]
  have hbefore : (decide ((stem ++ '.' :: w).length - w.length ≤ 1)) = false := by
    have hpositive := List.length_pos_iff.mpr hstem
    rw [List.length_append, List.length_cons, decide_eq_false_iff_not]
    omega
  simp only [Path.suffix, hlast, hending, hbefore]
  rw [if_neg (by simpa using hw)]

namespace Settings

open Document (Value Entries IsSimple documentOf)

variable {d d' : Disk} {home : Home} {w : Text}

/-! ## Letters and digits -/

/-- A word of ASCII letters and digits. -/
def IsAlphanumeric (w : Text) : Prop := w ≠ [] ∧ ∀ c ∈ w, c.isAlphanum = true

instance (w : Text) : Decidable (IsAlphanumeric w) :=
  decidable_of_iff (w ≠ [] ∧ w.all Char.isAlphanum = true) (and_congr_right' List.all_eq_true)

namespace IsAlphanumeric

theorem notMem (h : IsAlphanumeric w) {c : Char} (hc : c.isAlphanum = false) : c ∉ w :=
  fun hmem => Bool.false_ne_true (hc.symm.trans (h.2 c hmem))

theorem toNat_lt (h : IsAlphanumeric w) : ∀ c ∈ w, c.toNat < 128 := by
  intro c hc
  have hcode := Text.toNat_of_isAlphanum (h.2 c hc)
  omega

theorem lower (h : IsAlphanumeric w) : Text.lower w = Text.asciiLower w := Text.lower_eq_asciiLower h.toNat_lt

theorem lower_cons (h : IsAlphanumeric w) : Text.lower ('.' :: w) = '.' :: Text.asciiLower w :=
  Text.lower_eq_asciiLower (List.forall_mem_cons.mpr ⟨by decide, h.toNat_lt⟩)

theorem suffix_append {stem : Text} (h : IsAlphanumeric w) (hstem : stem ≠ []) (hslash : '/' ∉ stem) :
    Path.suffix (stem ++ '.' :: w) = '.' :: w := by
  have hlength : 3 ≤ (stem ++ '.' :: w).length := by
    have hstem := List.length_pos_iff.mpr hstem
    have hw := List.length_pos_iff.mpr h.1
    rw [List.length_append, List.length_cons]
    omega
  have hne (t : Text) (ht : t.length ≤ 2) : stem ++ '.' :: w ≠ t := by
    intro heq
    rw [heq] at hlength
    omega
  have hname : Path.IsComponent (stem ++ '.' :: w) := by
    refine ⟨hne _ (by decide), hne _ (by decide), hne _ (by decide), ?_⟩
    rw [List.mem_append, List.mem_cons, not_or, not_or]
    exact ⟨hslash, by decide, h.notMem rfl⟩
  exact Path.suffix_append hname hstem h.1 (h.notMem rfl)

end IsAlphanumeric

/-! ## A list of endings -/

/-- An ending in a list: a word with or without a point in front of it, and blanks around it. -/
structure Listed where
  before : Text
  dotted : Bool
  word : Text
  after : Text
  blank_before : ∀ c ∈ before, Text.isBlank c = true
  blank_after : ∀ c ∈ after, Text.isBlank c = true
  isAlphanumeric : IsAlphanumeric word

namespace Listed

/-- The ending without the blanks. -/
def written (item : Listed) : Text := (if item.dotted then ['.'] else []) ++ item.word

/-- The ending with the blanks. -/
def text (item : Listed) : Text := item.before ++ item.written ++ item.after

/-- The text of a list of endings. -/
def listText (items : List Listed) : Text := Text.joinWith "," (items.map text)

/-- The items that the text of a list stands for. -/
def values (items : List Listed) : List Value := items.map fun item => .text item.written

theorem mem_written {item : Listed} {c : Char} (h : c ∈ item.written) : c = '.' ∨ c.isAlphanum = true := by
  rcases List.mem_append.mp h with h | h
  · split_ifs at h
    · exact Or.inl (List.mem_singleton.mp h)
    · cases h
  · exact Or.inr (item.isAlphanumeric.2 c h)

theorem isItemChar_of_mem_written {item : Listed} {c : Char} (h : c ∈ item.written) :
    Document.isItemChar c = true := by
  rcases mem_written h with rfl | h
  · rfl
  · exact Document.isItemChar_of_isWordChar (by simp [Document.isWordChar, h])

theorem written_ne_nil (item : Listed) : item.written ≠ [] := by
  simp [written, item.isAlphanumeric.1]

/-- The blanks around an ending are dropped. -/
theorem trim_text (item : Listed) : Text.trim item.text = item.written := by
  have hitem {c : Char} (hc : c ∈ item.written) : Text.isBlank c = false :=
    Document.isBlank_of_isItemChar (isItemChar_of_mem_written hc)
  exact Text.trim_blanks item.blank_before item.blank_after (fun c hc => hitem (List.mem_of_head? hc))
    fun c hc => hitem (List.mem_of_getLast? hc)

theorem notMem_text (item : Listed) : ',' ∉ item.text := by
  have hblank : Text.isBlank ',' = false := by decide
  intro hmem
  rcases List.mem_append.mp hmem with hmem | hmem
  · rcases List.mem_append.mp hmem with hmem | hmem
    · exact Bool.false_ne_true (hblank.symm.trans (item.blank_before _ hmem))
    · exact Bool.false_ne_true (isItemChar_of_mem_written hmem)
  · exact Bool.false_ne_true (hblank.symm.trans (item.blank_after _ hmem))

variable {items : List Listed}

theorem splitOn_listText (hne : items ≠ []) : Text.splitOn ',' (listText items) = items.map text := by
  refine Text.splitOn_joinWith (by simpa using hne) fun piece hpiece => ?_
  obtain ⟨item, -, rfl⟩ := List.mem_map.mp hpiece
  exact item.notMem_text

/-- **The items of the text are the endings without their blanks.** -/
theorem parseItems_listText (hne : items ≠ []) : Setting.parseItems (listText items) = items.map written := by
  have htrim : Text.trim ∘ text = written := funext trim_text
  rw [Setting.parseItems, splitOn_listText hne, List.map_map, htrim, List.filter_eq_self]
  intro t ht
  obtain ⟨item, -, rfl⟩ := List.mem_map.mp ht
  simpa using item.written_ne_nil

theorem parse_listText (hne : items ≠ []) : Setting.extensions.parse (listText items) = .ok (.list (values items)) := by
  rw [Setting.parse, parseItems_listText hne, List.map_map]
  rfl

theorem isItemText_listText (hne : items ≠ []) : IsItemText (listText items) := by
  intro piece hpiece c hc
  rw [splitOn_listText hne] at hpiece
  obtain ⟨item, -, rfl⟩ := List.mem_map.mp hpiece
  rw [trim_text] at hc
  exact isItemChar_of_mem_written hc

/-- The ending as it is compared: with a point, and in small letters. -/
def ending (item : Listed) : Text := '.' :: Text.asciiLower item.word

theorem extensionOf_written (item : Listed) : extensionOf (.text item.written) = .ok item.ending := by
  have hhead : item.word.head? ≠ some '.' := fun h => item.isAlphanumeric.notMem rfl (List.mem_of_head? h)
  rw [extensionOf, written, ending]
  cases item.dotted with
  | false => simp [hhead, item.isAlphanumeric.lower]
  | true => simp [item.isAlphanumeric.lower_cons]

theorem mapM_extensionOf (items : List Listed) :
    (values items).mapM extensionOf = .ok (items.map ending) := by
  have hpure : (extensionOf ∘ fun item => Value.text item.written) = fun item => pure (ending item) :=
    funext extensionOf_written
  rw [values, List.mapM_map, hpure, List.mapM_pure]
  rfl

end Listed

/-! ## What is read -/

/-- The rules of a list of endings, if nothing else is set. -/
def rulesOf (items : List Listed) : ScanRules := ⟨[], items.map Listed.ending, true⟩

theorem scanRulesOf_listed {settings : Entries} {items : List Listed} (hne : items ≠ [])
    (hextensions : settings.lookup Setting.extensions.name = some (.list (Listed.values items)))
    (hignores : settings.lookup Setting.extraIgnores.name = some Setting.extraIgnores.default)
    (hwithout : settings.lookup Setting.includeExtensionless.name = some Setting.includeExtensionless.default) :
    scanRulesOf settings [] = .ok (rulesOf items) := by
  have hmapM := Listed.mapM_extensionOf items
  have hnonempty : (items.map Listed.ending).isEmpty = false := by simpa using hne
  simp only [scanRulesOf, hextensions, hignores, hwithout, Option.getD_some, Setting.default, itemsOf, bind,
    Except.bind, hmapM, pure, Except.pure, hnonempty]
  rfl

/-- **What is set is loaded**: a scan by the settings goes by the endings that were listed. -/
theorem exists_set_extensions (hhome : home.IsRooted) (hnew : home.IsNew d) {items : List Listed} (hne : items ≠ []) :
    ∃ d', set d home Setting.extensions.key (Listed.listText items) =
        (.ok (.list (Listed.values items)), d') ∧
      scanRules d' home [] = .ok (rulesOf items) := by
  have hkeeps : home.Keeps d [] := ⟨Document.isSimpleDocument_nil, Or.inl ⟨rfl, hnew⟩⟩
  have hplain : (Call.set Setting.extensions.key (Listed.listText items)).IsPlain :=
    fun _ _ _ _ => Listed.isItemText_listText hne
  have hparse := Listed.parse_listText hne
  rcases set_keeps hhome hkeeps hplain with ⟨setting, value, d', hkey, hvalue, hset, hkept⟩ | ⟨e, hanswer, -⟩
  · obtain rfl := Option.some.inj ((Setting.ofKey?_key .extensions).symm.trans hkey)
    obtain rfl := Except.ok.inj (hparse.symm.trans hvalue)
    refine ⟨d', hset, ?_⟩
    -- of the settings for scans only the endings are in the document
    have hgroup : group d' home Setting.scanGroup =
        .ok (groupOf Setting.scanGroup (documentOf (withValue .extensions (.list (Listed.values items)) []))) := by
      rw [group, hkept.load]
      rfl
    rw [scanRules, hgroup]
    exact scanRulesOf_listed hne (lookup_groupOf hkept.simple .extensions) (lookup_groupOf hkept.simple .extraIgnores)
      (lookup_groupOf hkept.simple .includeExtensionless)
  · rw [answer, Setting.ofKey?_key] at hanswer
    exact absurd (hparse.symm.trans hanswer) (by simp)

theorem reads_rulesOf_iff (items : List Listed) {stem : Text} (hstem : stem ≠ []) (hslash : '/' ∉ stem)
    (hw : IsAlphanumeric w) : (rulesOf items).policy.reads (stem ++ '.' :: w) = true ↔
      ∃ item ∈ items, Text.asciiLower item.word = Text.asciiLower w := by
  have hending : Text.lower (Path.suffix (stem ++ '.' :: w)) = '.' :: Text.asciiLower w := by
    rw [hw.suffix_append hstem hslash, hw.lower_cons]
  rw [Scan.Policy.reads, hending]
  simp [rulesOf, ScanRules.policy, Listed.ending]

/-- A file without an ending is read. -/
theorem reads_rulesOf (items : List Listed) {name : Text} (h : Path.suffix name = []) :
    (rulesOf items).policy.reads name = true := by
  rw [Scan.Policy.reads, h]
  rfl

/-- **The endings that are set are the endings that are read.** A list of endings is accepted where nothing has been set,
whatever letters they are in and whether they have a point in front or blanks around them. A scan by the settings then
reads a file whose name has a word behind its last point if and only if this word is one of those in the list, in any
letters; and it reads every file whose name has no ending. -/
theorem set_extensions_reads (hhome : home.IsRooted) (hnew : home.IsNew d) {items : List Listed} (hne : items ≠ []) :
    ∃ d' rules, set d home "scan.extensions" (Listed.listText items) =
        (.ok (.list (Listed.values items)), d') ∧
      scanRules d' home [] = .ok rules ∧ rules.isUsable = true ∧
      (∀ stem w, stem ≠ [] → '/' ∉ stem → IsAlphanumeric w → (rules.policy.reads (stem ++ '.' :: w) = true ↔
        ∃ item ∈ items, Text.asciiLower item.word = Text.asciiLower w)) ∧
      ∀ name, Path.suffix name = [] → rules.policy.reads name = true := by
  have hkey : ("scan.extensions" : Text) = Setting.extensions.key := by decide
  obtain ⟨d', hset, hrules⟩ := exists_set_extensions hhome hnew hne
  rw [hkey]
  exact ⟨d', rulesOf items, hset, hrules, rfl, fun stem w => reads_rulesOf_iff items, fun name => reads_rulesOf items⟩

/-- The endings of `" .Py,c "`. -/
def pyAndC : List Listed :=
  [⟨" ", true, "Py", "", List.all_eq_true.mp rfl, List.all_eq_true.mp rfl, by decide⟩,
    ⟨"", false, "c", " ", List.all_eq_true.mp rfl, List.all_eq_true.mp rfl, by decide⟩]

/-- The two endings of `" .Py,c "` in force. -/
theorem set_extensions_reads_pyAndC : ∃ d' rules,
    set (homeDisk none) homeOfDisk "scan.extensions" " .Py,c " = (.ok (.list [.text ".Py", .text "c"]), d') ∧
      scanRules d' homeOfDisk [] = .ok rules ∧ rules.policy.reads "a.b.pY" = true ∧
      rules.policy.reads "..C" = true ∧ rules.policy.reads "main.cpp" = false ∧
      rules.policy.reads "Makefile" = true := by
  have hnew : homeOfDisk.IsNew (homeDisk none) := (isReady_homeDisk none).isNew isRooted_homeOfDisk
  obtain ⟨d', rules, hset, hrules, -, hreads, hwithout⟩ :=
    set_extensions_reads isRooted_homeOfDisk hnew (List.cons_ne_nil _ _ : pyAndC ≠ [])
  refine ⟨d', rules, hset, hrules, ?_, ?_, ?_, hwithout "Makefile" (by decide)⟩
  · exact (hreads "a.b" "pY" (by decide) (by decide) (by decide)).mpr (by decide)
  · exact (hreads "." "C" (by decide) (by decide) (by decide)).mpr (by decide)
  · have hcpp := hreads "main" "cpp" (by decide) (by decide) (by decide)
    exact Bool.eq_false_iff.mpr fun h => absurd (hcpp.mp h) (by decide)

end Settings

end ImportChart
