import ProblemLint.Check

/-! Randomness: problems should vary with the seed, and with nothing else. -/

namespace ProblemLint.Check

def unseeded : List (String × String) :=
  [ ("rand", "rand() may bypass PG seeding; use random() or list_random().")
  , ("srand", "srand() overrides PG seeding; avoid for stable seeds.")
  , ("time", "time() makes values depend on the clock; avoid for stable seeds.")
  , ("localtime", "localtime() makes values depend on the clock; avoid for stable seeds.")
  , ("gmtime", "gmtime() makes values depend on the clock; avoid for stable seeds.")
  , ("SRAND", "SRAND() resets the PG random generator; avoid for stable seeds.")
  , ("ProblemRandomize", "ProblemRandomize() reseeds across attempts; confirm this is intended.")
  , ("PeriodicRerandomization",
      "PeriodicRerandomization() reseeds by attempt; confirm this is intended.")
  , ("rand_button", "rand_button() can reseed problems; confirm this is intended.")
  , ("randomizeCheckbox", "randomizeCheckbox() can reseed problems; confirm this is intended.")
  , ("randomizeButton", "randomizeButton() can reseed problems; confirm this is intended.")
  , ("randomizeInput", "randomizeInput() can reseed problems; confirm this is intended.")
  , ("randomizeHTML", "randomizeHTML() can reseed problems; confirm this is intended.") ]

/-- Calls of unseeded functions in a line, except of methods and functions of packages. -/
def unseededIssues (n : Nat) (line : Text) : List Issue :=
  unseeded.flatMap fun (name, message) =>
    ((codeMatches (functionCall name) line).filter fun m => !isQualified (line.take m.start)).map
      fun _ => .onLine .warning message n

def seedStability : Check :=
  .reporting "pgml_seed_stability" "Seed stability checks" fun d =>
    (codeLines d.code).flatMap fun (n, l) => unseededIssues n l

def seededFunctions : List String :=
  ["random", "non_zero_random", "list_random", "random_subset", "random_coprime",
    "random_pairwise_coprime", "NchooseK", "shuffle", "shufflemap", "randomPermutation",
    "randomPrime", "random_inv_matrix", "random_diag_matrix", "urand", "exprand", "poissonrand",
    "binomrand", "bernoullirand", "discreterand", "GRgraph_size_random",
    "GRgraph_size_random_weight_dweight", "GRgraphpic_dim_random_labels_weight_dweight",
    "randomPerson", "randomLastName", "list_random_multi_uniq", "bkell_list_random_selection",
    "ProblemRandomize", "PeriodicRerandomization", "rand_button", "randomizeCheckbox",
    "randomizeButton", "randomizeInput", "randomizeHTML", "SRAND", "rand"]

def seedUses : List Pattern :=
  seededFunctions.map functionCall
    ++ ["PGrandom", "PG_random_generator"].map
      (fun w => Pattern.wordEdge ++ Pattern.text w ++ Pattern.wordEdge)
    ++ ["$problemSeed", "$PG_original_problemSeed"].map fun w => Pattern.text w ++ Pattern.wordEdge

def usesSeed (line : Text) : Bool := seedUses.any fun p => !(codeMatches p line).isEmpty

def seedVariation : Check :=
  .reporting "pgml_seed_variation" "Seed variation detection" fun d =>
    if (emptyCall "DOCUMENT").occursIn d.code && !(codeLines d.code).any fun (_, l) => usesSeed l then
      [.general .warning "No seed-based randomization detected; answer may not vary with seed"]
    else []

end ProblemLint.Check
