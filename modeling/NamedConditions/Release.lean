/-!
The program's name and version, as it reports them.
-/
namespace NamedConditions

/-- The name of the program. -/
def programName : String := "envname"

/-- The version of the program. -/
def programVersion : String := "0.1.0"

end NamedConditions
