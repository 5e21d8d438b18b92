import Ceems.Go.Map
import Ceems.Go.Strings
import Ceems.Go.Strconv
import Ceems.Go.Filepath
import Ceems.Serverpool.ResourceBased
import Ceems.Serverpool.Target
import Ceems.Collector.Cgroup
import Ceems.Collector.Manager
import Ceems.Collector.Discovery
import Ceems.Collector.Regex
import Ceems.Collector.Layout
import Ceems.Collector.ManagerLayouts
import Ceems.Collector.CPUSet
import Ceems.Collector.Stats
import Ceems.Collector.Update
import Ceems.Collector.Footprint
import Ceems.Resource.Slurm
import Ceems.Collector.Emissions
import Ceems.Collector.ProcCgroups
import Ceems.Resource.Scheduler
import Ceems.Collector.Series
