/-!
The version of the library.
-/

namespace Facets

def version : String := "0.4.0"

end Facets
