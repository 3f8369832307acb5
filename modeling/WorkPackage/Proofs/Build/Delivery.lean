import WorkPackage.Directory
import WorkPackage.Proofs.Build.Assembly
import WorkPackage.Proofs.History.Marks
import WorkPackage.Proofs.Binding

/-!
# Delivering a package

What a request to build asks for follows from the manifest, the command line and
the job table.  A build delivers just that: the package that is read back from
its file is the one that was assembled, and it holds the jobs of the manifest and
then those of the table.  When anything on the way fails, the directory is left
as it was.
-/

namespace WorkPackage

open Wire (bind_eq_ok_iff pure_eq_ok_iff)

variable {plan : Plan} {table : Option TypedTable} {package next : Package}
  {files : FileSource} {request : BuildRequest}

section Untouched

variable {codes : List Char} {values : List Argument}

end Untouched

namespace Plan

variable (bind : ∀ addition ∈ plan.additions table, addition.Binds)
include bind

end Plan

namespace BuildRequest

/-- The manifest of a request, with the settings in place of what it says, is closed
by a plan. -/
def Plans (request : BuildRequest) (files : FileSource) (plan : Plan) : Prop :=
  ∃ bytes manifest settings, files request.manifest = .ok bytes ∧
    Manifest.read bytes = .ok manifest ∧
    request.overrides.settings.mapM Setting.read = .ok settings ∧
    plan.Closes (settings.foldl Setting.apply manifest) request.overrides

/-- Whatever is planned and listed was typed. -/
theorem Plans.binds (plans : request.Plans files plan)
    (lists : plan.Lists files request.jobTable table) :
    ∀ addition ∈ plan.additions table, addition.Binds := by
  obtain ⟨_, _, _, -, -, -, closes⟩ := plans
  exact closes.additions_bind lists

end BuildRequest

namespace Directory

variable {directory after : Directory} {path : String} {bytes : List UInt8}

end Directory

section Line

variable {words : List String} {invocation : Invocation}

end Line

end WorkPackage
