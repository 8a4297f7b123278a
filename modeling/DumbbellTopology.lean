import DumbbellTopology.Cxx.IStream
import DumbbellTopology.Cxx.WordStream
import DumbbellTopology.Cxx.TokenMap
import DumbbellTopology.Trace
import DumbbellTopology.AnalyzePruTokens
import DumbbellTopology.ParseWords
import DumbbellTopology.RoundTrip
import DumbbellTopology.Main
import DumbbellTopology.Simulation
