import RouteProbe.Proofs.Session.Least

/-!
# Loggers that noisy modules quiet

However often the log of a session has been configured, and whatever loggers came into its tree
before and after, the tree is one that has grown by just that (`System.Past.isGrown`).  So the
latest noisy modules keep to warnings what is below them: nothing lighter that is given to such a
logger is written, through either entry and at whatever level of the settings
(`quieted_writes_warnings_only`).

A logger below a module escapes it only if its way up leaves the module's name.  This happens in two
places.  After an even number of dots a name is not below it in the tree, so what its logger is
given goes to the root.  So does what a logger is given that came before that of a module whose name
begins the root's (`not_forall_below_writesNothing`).
-/

namespace RouteProbe

open Log

namespace Session

/-- **Noisy modules write warnings only, and so does what is below them.**  Take a session with any
history, and a noisy module of the settings that its log has been asked to follow last.  A logger
that the module quiets writes nothing of what it is given below warnings, through either entry and
at whatever level of the settings; and a record without arguments it writes exactly if that is a
warning at least.  Quieted is any logger if the module has a name of the root, and else the module's
own, and each one below it whose way up does not leave the module's name.  This is so whether the
logger comes before the configuration or after it.

A logger leaves the module's name only where its own goes on after that with an even number of dots,
or where it stands under the root and the name of the root begins with the module's.  So a name that
goes on with one dot is quieted by every module whose name does not begin the root's. -/
theorem quieted_writes_warnings_only (w : Surroundings) {history : History} {settings : Settings}
    (hasked : (history.asked (start w)).getLast? = some settings) {lib : Name}
    (hlib : lib ∈ noisyNames settings) :
    let s := (start w).after history
    (∀ n, s.log.tree.IsQuieted n lib →
      (∀ stamp t weight, t.Gives n weight → weight < Level.warning.weight →
        s.WritesNothing stamp t) ∧
      ∀ stamp weight template,
        (s.step stamp (.record n weight template [])).2 = .logged (.ok ())
          (if Level.warning.weight ≤ weight then .errLine template.plainText else .none)) ∧
    (lib.isRoot = false → ∀ n, ∀ x ∈ (s.log.tree.use n).loggers, Tree.Leaves x lib →
      ¬ x.1.IsRightBelow lib ∨ lib <+: Name.root ∧ x.2.parent = none) ∧
    (¬ lib <+: Name.root → ∀ rest : List Char, rest.head? ≠ some '.' →
      s.log.tree.IsQuieted (lib ++ '.' :: rest) lib) := by
  intro s
  have hpast : System.Past (history.asked (start w)) s.log := past_after_start w history
  have hfollows := hpast.hasAsked.latest settings hasked
  refine ⟨fun n hn => ?_, fun hother n x hx hleaves => ?_, fun hroot rest hrest => ?_⟩
  · have hplain := hfollows.level_and_outlet_use hpast.isGrown hlib hn
    refine ⟨fun stamp t weight hgives hlow => ?_, fun stamp weight template => ?_⟩
    · refine hgives.writesNothing hfollows.routed ?_
      rw [hplain.2]
      exact hlow
    · show Answer.logged (.ok ()) (s.log.record stamp n weight template []).2 = _
      rw [System.record_of_plain hplain]
  · have hthere := ((hfollows.use n).pinned lib hlib hother).has
    exact (hpast.isGrown.use n).leaves hthere hx hleaves
  · exact hfollows.isQuieted_of_dot hpast.isGrown hlib hroot hrest

/-- Settings for debugging, with a noisy module below another one, and one whose name begins the
root's. -/
def nestedSettings : Settings :=
  { Settings.default with logLevel := .debug
                          noisyModules := ["httpx.pool", "httpx", "r"] }

/-- A history in which a log is configured with these settings, after others, and after a logger
below two of the modules has been used. -/
def nestedHistory : History :=
  [([], .configure [("LOGGING_NOISY_MODULES", .list [.text "urllib3"])]),
    ([], .record "httpx.pool.http1".toList 20 (.text "early") []),
    ([], .configure [("LOG_LEVEL", .text "debug"),
      ("LOGGING_NOISY_MODULES", .list [.text "httpx.pool", .text "httpx", .text "r"])])]

/-- The logger that came first writes warnings only, and so do a new one below the two modules and
one below the third. -/
theorem quieted_writes_warnings_only_nested :
    let s := (start ⟨[], none⟩).after nestedHistory
    s.WritesNothing [] (.record "httpx.pool.http1".toList 20 (.text "x") []) ∧
      s.WritesNothing [] (.event (eventCall "httpx.pool.http2".toList .debug ['x'] [])) ∧
      (s.step [] (.record "r.x".toList 30 (.text "x") [])).2 =
        .logged (.ok ()) (.errLine ['x']) := by
  have hasked : (nestedHistory.asked (start ⟨[], none⟩)).getLast? = some nestedSettings := rfl
  have hupper : "httpx".toList ∈ noisyNames nestedSettings := by decide
  have hlower : "httpx.pool".toList ∈ noisyNames nestedSettings := by decide
  have hshort : "r".toList ∈ noisyNames nestedSettings := by decide
  refine ⟨?_, ?_, ?_⟩
  · obtain ⟨hquiet, -, hdot⟩ := quieted_writes_warnings_only ⟨[], none⟩ hasked hupper
    exact (hquiet _ (hdot (by decide) "pool.http1".toList (by decide))).1 [] _ 20
      (.record _ 20 (.text "x") []) (by decide)
  · obtain ⟨hquiet, -, hdot⟩ := quieted_writes_warnings_only ⟨[], none⟩ hasked hlower
    exact (hquiet _ (hdot (by decide) "http2".toList (by decide))).1 [] _ 10
      (.event (c := eventCall "httpx.pool.http2".toList .debug ['x'] [])
        (m := ⟨.debug, "debug", false⟩) rfl) (by decide)
  · obtain ⟨hquiet, -, -⟩ := quieted_writes_warnings_only ⟨[], none⟩ hasked hshort
    refine (hquiet _ (.inr (.inr ⟨by decide, ?_⟩))).2 [] 30 (.text "x")
    rintro ⟨x, hleads, hbelow, hleaves⟩
    -- The new logger is the only one below the module, and stands under the module's own.
    have hunder : ∀ x ∈ (((start ⟨[], none⟩).after nestedHistory).log.tree.use
        "r.x".toList).loggers, x.1.isBelow "r".toList = true → x.2.parent = some "r".toList := by
      decide +kernel
    exact hleaves _ (hunder x hleads.mem hbelow) List.prefix_rfl

/-- A record of which something is written. -/
theorem not_writesNothing_of_ne {s : Session} {stamp : List Char} {n : Name} {weight : Int}
    {template : Value} {arguments : List Value}
    (h : (s.log.record stamp n weight template arguments).2 ≠ .none) :
    ¬ s.WritesNothing stamp (.record n weight template arguments) := by
  rintro ⟨result, hanswer⟩
  exact h (Answer.logged.inj hanswer).2

/-- **Not all that is below a module is kept quiet**: after two dots a record of debugging is
written, and so is one of a logger that came before that of a module whose name begins the
root's. -/
theorem not_forall_below_writesNothing :
    (¬ ∀ (w : Surroundings) (history : History) (settings : Settings),
      (history.asked (start w)).getLast? = some settings → ∀ lib ∈ noisyNames settings,
        ∀ n, n = lib ∨ n.isBelow lib = true → ∀ t weight, t.Gives n weight →
          weight < Level.warning.weight → ∀ stamp,
            ((start w).after history).WritesNothing stamp t) ∧
    ¬ ((start ⟨[], none⟩).after [([], .record "r.x".toList 10 (.text "early") []),
      ([], .configure [("LOG_LEVEL", .text "debug"),
        ("LOGGING_NOISY_MODULES", .list [.text "r"])])]).WritesNothing []
          (.record "r.x".toList 10 (.text "x") []) := by
  refine ⟨fun hall => ?_, not_writesNothing_of_ne (by decide +kernel)⟩
  have hquiet := hall ⟨[], none⟩ [([], .configure [("LOG_LEVEL", .text "debug"),
      ("LOGGING_NOISY_MODULES", .list [.text "a"])])]
    { Settings.default with logLevel := .debug, noisyModules := ["a"] } rfl "a".toList (by decide)
    "a..b".toList (.inr (by decide)) _ 10 (.record _ 10 (.text "x") []) (by decide) []
  exact not_writesNothing_of_ne (by decide +kernel) hquiet

end Session
end RouteProbe
