import RootFinder.Launcher
import RootFinder.Page
import RootFinder.Sorting.Permutation
import RootFinder.Proofs.Binary64.Code
import RootFinder.Proofs.Binary64.Reading
import RootFinder.Proofs.Decimal.Shortest
import RootFinder.Proofs.Expression.Grammar
import RootFinder.Proofs.Expression.Scanning
import RootFinder.Proofs.Expression.Values
import RootFinder.Proofs.Expression.Reading
import RootFinder.Proofs.Expression.Parsing
import RootFinder.Proofs.Text.Ascii
import RootFinder.Proofs.Expression.Alphabet
import RootFinder.Proofs.Polynomial.Numerals
import RootFinder.Proofs.Polynomial.Writing
import RootFinder.Proofs.Polynomial.RoundTrip
import RootFinder.Proofs.Solution.Shape
import RootFinder.Proofs.Solution.Count
import RootFinder.Proofs.Strategy.Congruence
import RootFinder.Proofs.Binary64.View
import RootFinder.Proofs.Binary64.Zeros
import RootFinder.Proofs.Expression.Valueless
import RootFinder.Proofs.Service.Requests
import RootFinder.Proofs.Solution.Kinds
import RootFinder.Proofs.Polynomial.Formal
import RootFinder.Proofs.Polynomial.Trimming
import RootFinder.Proofs.Service.Parsing
import RootFinder.Proofs.Service.Trimming
import RootFinder.Proofs.Strategy.Leading
import RootFinder.Proofs.Solution.Canonical
import RootFinder.Proofs.Page.Showing
import RootFinder.Proofs.Page.Submission
import RootFinder.Proofs.Binary64.Rounding
import RootFinder.Proofs.Binary64.Sum
import RootFinder.Proofs.Launcher.Log
import RootFinder.Proofs.Launcher.Yields
import RootFinder.Proofs.Launcher.Waiting
import RootFinder.Proofs.Launcher.Watching
import RootFinder.Proofs.Launcher.LifeCycle
import RootFinder.Proofs.Real.Arithmetic
import RootFinder.Proofs.Real.Cardano
import RootFinder.Proofs.Real.Completeness
import RootFinder.Proofs.Real.RepeatedRoots
import RootFinder.Proofs.Real.Scaling
import RootFinder.Proofs.Binary64.Finite
import RootFinder.Proofs.Newton.Orbit
import RootFinder.Proofs.Newton.Search
import RootFinder.Proofs.Polynomial.Evaluation
import RootFinder.Proofs.Newton.Exact
import RootFinder.Proofs.Real.Reported
import RootFinder.Proofs.Binary64.Order
import RootFinder.Proofs.Verification.Verdict
import RootFinder.Proofs.Expression.Position
import RootFinder.Proofs.Expression.Exponents
import RootFinder.Proofs.Binary64.Places
import RootFinder.Proofs.Root.Rounding
import RootFinder.Proofs.Solution.Newton
import RootFinder.Proofs.Json.Order
import RootFinder.Proofs.Launcher.Smoke
import RootFinder.Proofs.Expression.Splitting
import RootFinder.Proofs.Expression.Prefixes
import RootFinder.Proofs.Binary64.Negation
import RootFinder.Proofs.Solution.Conjugates
import RootFinder.Proofs.Strategy.Pairs
import RootFinder.Proofs.Newton.Collect
import RootFinder.Proofs.Newton.Reflection
