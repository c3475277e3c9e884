/-!
# Rules of daylight saving

The rules of the time zone database, one on each line: name, first and last year, month, day, time
of day (with `s` for standard and `u` for universal time), and the saving from then on.
-/

namespace CronHeatMap.Zone.Data

/-- The rules of daylight saving. -/
def rules : String := "d 1916 1916 Jun 14 23:00s 1:00
d 1916 1919 Oct Sun>=1 23:00s 0:00
d 1917 1917 Mar 24 23:00s 1:00
d 1918 1918 Mar 9 23:00s 1:00
d 1919 1919 Mar 1 23:00s 1:00
d 1920 1920 Feb 14 23:00s 1:00
d 1920 1920 Oct 23 23:00s 0:00
d 1921 1921 Mar 14 23:00s 1:00
d 1921 1921 Jun 21 23:00s 0:00
d 1939 1939 Sep 11 23:00s 1:00
d 1939 1939 Nov 19 1:00 0:00
d 1944 1945 Apr Mon>=1 2:00 1:00
d 1944 1944 Oct 8 2:00 0:00
d 1945 1945 Sep 16 1:00 0:00
d 1971 1971 Apr 25 23:00s 1:00
d 1971 1971 Sep 26 23:00s 0:00
d 1977 1977 May 6 0:00 1:00
d 1977 1977 Oct 21 0:00 0:00
d 1978 1978 Mar 24 1:00 1:00
d 1978 1978 Sep 22 3:00 0:00
d 1980 1980 Apr 25 0:00 1:00
d 1980 1980 Oct 31 2:00 0:00
K 1940 1940 Jul 15 0:00 1:00
K 1940 1940 Oct 1 0:00 0:00
K 1941 1941 Apr 15 0:00 1:00
K 1941 1941 Sep 16 0:00 0:00
K 1942 1944 Apr 1 0:00 1:00
K 1942 1942 Oct 27 0:00 0:00
K 1943 1945 Nov 1 0:00 0:00
K 1945 1945 Apr 16 0:00 1:00
K 1957 1957 May 10 0:00 1:00
K 1957 1958 Oct 1 0:00 0:00
K 1958 1958 May 1 0:00 1:00
K 1959 1981 May 1 1:00 1:00
K 1959 1965 Sep 30 3:00 0:00
K 1966 1994 Oct 1 3:00 0:00
K 1982 1982 Jul 25 1:00 1:00
K 1983 1983 Jul 12 1:00 1:00
K 1984 1988 May 1 1:00 1:00
K 1989 1989 May 6 1:00 1:00
K 1990 1994 May 1 1:00 1:00
K 1995 2010 Apr lastFri 0:00s 1:00
K 1995 2005 Sep lastThu 24:00 0:00
K 2006 2006 Sep 21 24:00 0:00
K 2007 2007 Sep Thu>=1 24:00 0:00
K 2008 2008 Aug lastThu 24:00 0:00
K 2009 2009 Aug 20 24:00 0:00
K 2010 2010 Aug 10 24:00 0:00
K 2010 2010 Sep 9 24:00 1:00
K 2010 2010 Sep lastThu 24:00 0:00
K 2014 2014 May 15 24:00 1:00
K 2014 2014 Jun 26 24:00 0:00
K 2014 2014 Jul 31 24:00 1:00
K 2014 2014 Sep lastThu 24:00 0:00
K 2023 max Apr lastFri 0:00 1:00
K 2023 max Oct lastThu 24:00 0:00
L 1951 1951 Oct 14 2:00 1:00
L 1952 1952 Jan 1 0:00 0:00
L 1953 1953 Oct 9 2:00 1:00
L 1954 1954 Jan 1 0:00 0:00
L 1955 1955 Sep 30 0:00 1:00
L 1956 1956 Jan 1 0:00 0:00
L 1982 1984 Apr 1 0:00 1:00
L 1982 1985 Oct 1 0:00 0:00
L 1985 1985 Apr 6 0:00 1:00
L 1986 1986 Apr 4 0:00 1:00
L 1986 1986 Oct 3 0:00 0:00
L 1987 1989 Apr 1 0:00 1:00
L 1987 1989 Oct 1 0:00 0:00
L 1997 1997 Apr 4 0:00 1:00
L 1997 1997 Oct 4 0:00 0:00
L 2013 2013 Mar lastFri 1:00 1:00
L 2013 2013 Oct lastFri 2:00 0:00
MU 1982 1982 Oct 10 0:00 1:00
MU 1983 1983 Mar 21 0:00 0:00
MU 2008 2008 Oct lastSun 2:00 1:00
MU 2009 2009 Mar lastSun 2:00 0:00
M 1939 1939 Sep 12 0:00 1:00
M 1939 1939 Nov 19 0:00 0:00
M 1940 1940 Feb 25 0:00 1:00
M 1945 1945 Nov 18 0:00 0:00
M 1950 1950 Jun 11 0:00 1:00
M 1950 1950 Oct 29 0:00 0:00
M 1967 1967 Jun 3 12:00 1:00
M 1967 1967 Oct 1 0:00 0:00
M 1974 1974 Jun 24 0:00 1:00
M 1974 1974 Sep 1 0:00 0:00
M 1976 1977 May 1 0:00 1:00
M 1976 1976 Aug 1 0:00 0:00
M 1977 1977 Sep 28 0:00 0:00
M 1978 1978 Jun 1 0:00 1:00
M 1978 1978 Aug 4 0:00 0:00
M 2008 2008 Jun 1 0:00 1:00
M 2008 2008 Sep 1 0:00 0:00
M 2009 2009 Jun 1 0:00 1:00
M 2009 2009 Aug 21 0:00 0:00
M 2010 2010 May 2 0:00 1:00
M 2010 2010 Aug 8 0:00 0:00
M 2011 2011 Apr 3 0:00 1:00
M 2011 2011 Jul 31 0:00 0:00
M 2012 2013 Apr lastSun 2:00 1:00
M 2012 2012 Jul 20 3:00 0:00
M 2012 2012 Aug 20 2:00 1:00
M 2012 2012 Sep 30 3:00 0:00
M 2013 2013 Jul 7 3:00 0:00
M 2013 2013 Aug 10 2:00 1:00
M 2013 2017 Oct lastSun 3:00 0:00
M 2014 2018 Mar lastSun 2:00 1:00
M 2014 2014 Jun 28 3:00 0:00
M 2014 2014 Aug 2 2:00 1:00
M 2015 2015 Jun 14 3:00 0:00
M 2015 2015 Jul 19 2:00 1:00
M 2016 2016 Jun 5 3:00 0:00
M 2016 2016 Jul 10 2:00 1:00
M 2017 2017 May 21 3:00 0:00
M 2017 2017 Jul 2 2:00 1:00
M 2018 2018 May 13 3:00 0:00
M 2018 2018 Jun 17 2:00 1:00
M 2019 2019 May 5 3:00 0:00
M 2019 2019 Jun 9 2:00 1:00
M 2020 2020 Apr 19 3:00 0:00
M 2020 2020 May 31 2:00 1:00
M 2021 2021 Apr 11 3:00 0:00
M 2021 2021 May 16 2:00 1:00
M 2022 2022 Mar 27 3:00 0:00
M 2022 2022 May 8 2:00 1:00
M 2023 2023 Mar 19 3:00 0:00
M 2023 2023 Apr 23 2:00 1:00
M 2024 2024 Mar 10 3:00 0:00
M 2024 2024 Apr 14 2:00 1:00
M 2025 2025 Feb 23 3:00 0:00
M 2025 2025 Apr 6 2:00 1:00
M 2026 2026 Feb 15 3:00 0:00
M 2026 2026 Mar 22 2:00 1:00
M 2027 2027 Feb 7 3:00 0:00
M 2027 2027 Mar 14 2:00 1:00
M 2028 2028 Jan 23 3:00 0:00
M 2028 2028 Mar 5 2:00 1:00
M 2029 2029 Jan 14 3:00 0:00
M 2029 2029 Feb 18 2:00 1:00
M 2029 2029 Dec 30 3:00 0:00
M 2030 2030 Feb 10 2:00 1:00
M 2030 2030 Dec 22 3:00 0:00
M 2031 2031 Jan 26 2:00 1:00
M 2031 2031 Dec 14 3:00 0:00
M 2032 2032 Jan 18 2:00 1:00
M 2032 2032 Nov 28 3:00 0:00
M 2033 2033 Jan 9 2:00 1:00
M 2033 2033 Nov 20 3:00 0:00
M 2033 2033 Dec 25 2:00 1:00
M 2034 2034 Nov 5 3:00 0:00
M 2034 2034 Dec 17 2:00 1:00
M 2035 2035 Oct 28 3:00 0:00
M 2035 2035 Dec 9 2:00 1:00
M 2036 2036 Oct 19 3:00 0:00
M 2036 2036 Nov 23 2:00 1:00
M 2037 2037 Oct 4 3:00 0:00
M 2037 2037 Nov 15 2:00 1:00
M 2038 2038 Sep 26 3:00 0:00
M 2038 2038 Oct 31 2:00 1:00
M 2039 2039 Sep 18 3:00 0:00
M 2039 2039 Oct 23 2:00 1:00
M 2040 2040 Sep 2 3:00 0:00
M 2040 2040 Oct 14 2:00 1:00
M 2041 2041 Aug 25 3:00 0:00
M 2041 2041 Sep 29 2:00 1:00
M 2042 2042 Aug 10 3:00 0:00
M 2042 2042 Sep 21 2:00 1:00
M 2043 2043 Aug 2 3:00 0:00
M 2043 2043 Sep 13 2:00 1:00
M 2044 2044 Jul 24 3:00 0:00
M 2044 2044 Aug 28 2:00 1:00
M 2045 2045 Jul 9 3:00 0:00
M 2045 2045 Aug 20 2:00 1:00
M 2046 2046 Jul 1 3:00 0:00
M 2046 2046 Aug 5 2:00 1:00
M 2047 2047 Jun 23 3:00 0:00
M 2047 2047 Jul 28 2:00 1:00
M 2048 2048 Jun 7 3:00 0:00
M 2048 2048 Jul 19 2:00 1:00
M 2049 2049 May 30 3:00 0:00
M 2049 2049 Jul 4 2:00 1:00
M 2050 2050 May 15 3:00 0:00
M 2050 2050 Jun 26 2:00 1:00
M 2051 2051 May 7 3:00 0:00
M 2051 2051 Jun 18 2:00 1:00
M 2052 2052 Apr 28 3:00 0:00
M 2052 2052 Jun 2 2:00 1:00
M 2053 2053 Apr 13 3:00 0:00
M 2053 2053 May 25 2:00 1:00
M 2054 2054 Apr 5 3:00 0:00
M 2054 2054 May 10 2:00 1:00
M 2055 2055 Mar 28 3:00 0:00
M 2055 2055 May 2 2:00 1:00
M 2056 2056 Mar 12 3:00 0:00
M 2056 2056 Apr 23 2:00 1:00
M 2057 2057 Mar 4 3:00 0:00
M 2057 2057 Apr 8 2:00 1:00
M 2058 2058 Feb 17 3:00 0:00
M 2058 2058 Mar 31 2:00 1:00
M 2059 2059 Feb 9 3:00 0:00
M 2059 2059 Mar 23 2:00 1:00
M 2060 2060 Feb 1 3:00 0:00
M 2060 2060 Mar 7 2:00 1:00
M 2061 2061 Jan 16 3:00 0:00
M 2061 2061 Feb 27 2:00 1:00
M 2062 2062 Jan 8 3:00 0:00
M 2062 2062 Feb 12 2:00 1:00
M 2062 2062 Dec 31 3:00 0:00
M 2063 2063 Feb 4 2:00 1:00
M 2063 2063 Dec 16 3:00 0:00
M 2064 2064 Jan 27 2:00 1:00
M 2064 2064 Dec 7 3:00 0:00
M 2065 2065 Jan 11 2:00 1:00
M 2065 2065 Nov 22 3:00 0:00
M 2066 2066 Jan 3 2:00 1:00
M 2066 2066 Nov 14 3:00 0:00
M 2066 2066 Dec 26 2:00 1:00
M 2067 2067 Nov 6 3:00 0:00
M 2067 2067 Dec 11 2:00 1:00
M 2068 2068 Oct 21 3:00 0:00
M 2068 2068 Dec 2 2:00 1:00
M 2069 2069 Oct 13 3:00 0:00
M 2069 2069 Nov 17 2:00 1:00
M 2070 2070 Oct 5 3:00 0:00
M 2070 2070 Nov 9 2:00 1:00
M 2071 2071 Sep 20 3:00 0:00
M 2071 2071 Nov 1 2:00 1:00
M 2072 2072 Sep 11 3:00 0:00
M 2072 2072 Oct 16 2:00 1:00
M 2073 2073 Aug 27 3:00 0:00
M 2073 2073 Oct 8 2:00 1:00
M 2074 2074 Aug 19 3:00 0:00
M 2074 2074 Sep 30 2:00 1:00
M 2075 2075 Aug 11 3:00 0:00
M 2075 2075 Sep 15 2:00 1:00
M 2076 2076 Jul 26 3:00 0:00
M 2076 2076 Sep 6 2:00 1:00
M 2077 2077 Jul 18 3:00 0:00
M 2077 2077 Aug 22 2:00 1:00
M 2078 2078 Jul 10 3:00 0:00
M 2078 2078 Aug 14 2:00 1:00
M 2079 2079 Jun 25 3:00 0:00
M 2079 2079 Aug 6 2:00 1:00
M 2080 2080 Jun 16 3:00 0:00
M 2080 2080 Jul 21 2:00 1:00
M 2081 2081 Jun 1 3:00 0:00
M 2081 2081 Jul 13 2:00 1:00
M 2082 2082 May 24 3:00 0:00
M 2082 2082 Jun 28 2:00 1:00
M 2083 2083 May 16 3:00 0:00
M 2083 2083 Jun 20 2:00 1:00
M 2084 2084 Apr 30 3:00 0:00
M 2084 2084 Jun 11 2:00 1:00
M 2085 2085 Apr 22 3:00 0:00
M 2085 2085 May 27 2:00 1:00
M 2086 2086 Apr 14 3:00 0:00
M 2086 2086 May 19 2:00 1:00
M 2087 2087 Mar 30 3:00 0:00
M 2087 2087 May 11 2:00 1:00
NA 1994 1994 Mar 21 0:00 0:00
NA 1994 2017 Sep Sun>=1 2:00 1:00
NA 1995 2017 Apr Sun>=1 2:00 0:00
SA 1942 1943 Sep Sun>=15 2:00 1:00
SA 1943 1944 Mar Sun>=15 2:00 0:00
SD 1970 1970 May 1 0:00 1:00
SD 1970 1985 Oct 15 0:00 0:00
SD 1971 1971 Apr 30 0:00 1:00
SD 1972 1985 Apr lastSun 0:00 1:00
n 1939 1939 Apr 15 23:00s 1:00
n 1939 1939 Nov 18 23:00s 0:00
n 1940 1940 Feb 25 23:00s 1:00
n 1941 1941 Oct 6 0:00 0:00
n 1942 1942 Mar 9 0:00 1:00
n 1942 1942 Nov 2 3:00 0:00
n 1943 1943 Mar 29 2:00 1:00
n 1943 1943 Apr 17 2:00 0:00
n 1943 1943 Apr 25 2:00 1:00
n 1943 1943 Oct 4 2:00 0:00
n 1944 1945 Apr Mon>=1 2:00 1:00
n 1944 1944 Oct 8 0:00 0:00
n 1945 1945 Sep 16 0:00 0:00
n 1977 1977 Apr 30 0:00s 1:00
n 1977 1977 Sep 24 0:00s 0:00
n 1978 1978 May 1 0:00s 1:00
n 1978 1978 Oct 1 0:00s 0:00
n 1988 1988 Jun 1 0:00s 1:00
n 1988 1990 Sep lastSun 0:00s 0:00
n 1989 1989 Mar 26 0:00s 1:00
n 1990 1990 May 1 0:00s 1:00
n 2005 2005 May 1 0:00s 1:00
n 2005 2005 Sep 30 1:00s 0:00
n 2006 2008 Mar lastSun 2:00s 1:00
n 2006 2008 Oct lastSun 2:00s 0:00
Tr 2005 max Mar lastSun 1:00u 2:00
Tr 2004 max Oct lastSun 1:00u 0:00
AM 2011 2011 Mar lastSun 2:00s 1:00
AM 2011 2011 Oct lastSun 2:00s 0:00
AZ 1997 2015 Mar lastSun 4:00 1:00
AZ 1997 2015 Oct lastSun 5:00 0:00
BD 2009 2009 Jun 19 23:00 1:00
BD 2009 2009 Dec 31 24:00 0:00
Sh 1919 1919 Apr 12 24:00 1:00
Sh 1919 1919 Sep 30 24:00 0:00
Sh 1940 1940 Jun 1 0:00 1:00
Sh 1940 1940 Oct 12 24:00 0:00
Sh 1941 1941 Mar 15 0:00 1:00
Sh 1941 1941 Nov 1 24:00 0:00
Sh 1942 1942 Jan 31 0:00 1:00
Sh 1945 1945 Sep 1 24:00 0:00
Sh 1946 1946 May 15 0:00 1:00
Sh 1946 1946 Sep 30 24:00 0:00
Sh 1947 1947 Apr 15 0:00 1:00
Sh 1947 1947 Oct 31 24:00 0:00
Sh 1948 1949 May 1 0:00 1:00
Sh 1948 1949 Sep 30 24:00 0:00
CN 1986 1986 May 4 2:00 1:00
CN 1986 1991 Sep Sun>=11 2:00 0:00
CN 1987 1991 Apr Sun>=11 2:00 1:00
HK 1946 1946 Apr 21 0:00 1:00
HK 1946 1946 Dec 1 3:30s 0:00
HK 1947 1947 Apr 13 3:30s 1:00
HK 1947 1947 Nov 30 3:30s 0:00
HK 1948 1948 May 2 3:30s 1:00
HK 1948 1952 Oct Sun>=28 3:30s 0:00
HK 1949 1953 Apr Sun>=1 3:30 1:00
HK 1953 1964 Oct Sun>=31 3:30 0:00
HK 1954 1964 Mar Sun>=18 3:30 1:00
HK 1965 1976 Apr Sun>=16 3:30 1:00
HK 1965 1976 Oct Sun>=16 3:30 0:00
HK 1973 1973 Dec 30 3:30 1:00
HK 1979 1979 May 13 3:30 1:00
HK 1979 1979 Oct 21 3:30 0:00
f 1946 1946 May 15 0:00 1:00
f 1946 1946 Oct 1 0:00 0:00
f 1947 1947 Apr 15 0:00 1:00
f 1947 1947 Nov 1 0:00 0:00
f 1948 1951 May 1 0:00 1:00
f 1948 1951 Oct 1 0:00 0:00
f 1952 1952 Mar 1 0:00 1:00
f 1952 1954 Nov 1 0:00 0:00
f 1953 1959 Apr 1 0:00 1:00
f 1955 1961 Oct 1 0:00 0:00
f 1960 1961 Jun 1 0:00 1:00
f 1974 1975 Apr 1 0:00 1:00
f 1974 1975 Oct 1 0:00 0:00
f 1979 1979 Jul 1 0:00 1:00
f 1979 1979 Oct 1 0:00 0:00
_ 1942 1943 Apr 30 23:00 1:00
_ 1942 1942 Nov 17 23:00 0:00
_ 1943 1943 Sep 30 23:00 0:00
_ 1946 1946 Apr 30 23:00s 1:00
_ 1946 1946 Sep 30 23:00s 0:00
_ 1947 1947 Apr 19 23:00s 1:00
_ 1947 1947 Nov 30 23:00s 0:00
_ 1948 1948 May 2 23:00s 1:00
_ 1948 1948 Oct 31 23:00s 0:00
_ 1949 1950 Apr Sat>=1 23:00s 1:00
_ 1949 1950 Oct lastSat 23:00s 0:00
_ 1951 1951 Mar 31 23:00s 1:00
_ 1951 1951 Oct 28 23:00s 0:00
_ 1952 1953 Apr Sat>=1 23:00s 1:00
_ 1952 1952 Nov 1 23:00s 0:00
_ 1953 1954 Oct lastSat 23:00s 0:00
_ 1954 1956 Mar Sat>=17 23:00s 1:00
_ 1955 1955 Nov 5 23:00s 0:00
_ 1956 1964 Nov Sun>=1 3:30 0:00
_ 1957 1964 Mar Sun>=18 3:30 1:00
_ 1965 1973 Apr Sun>=16 3:30 1:00
_ 1965 1966 Oct Sun>=16 2:30 0:00
_ 1967 1976 Oct Sun>=16 3:30 0:00
_ 1973 1973 Dec 30 3:30 1:00
_ 1975 1976 Apr Sun>=16 3:30 1:00
_ 1979 1979 May 13 3:30 1:00
_ 1979 1979 Oct Sun>=16 3:30 0:00
CY 1975 1975 Apr 13 0:00 1:00
CY 1975 1975 Oct 12 0:00 0:00
CY 1976 1976 May 15 0:00 1:00
CY 1976 1976 Oct 11 0:00 0:00
CY 1977 1980 Apr Sun>=1 0:00 1:00
CY 1977 1977 Sep 25 0:00 0:00
CY 1978 1978 Oct 2 0:00 0:00
CY 1979 1997 Sep lastSun 0:00 0:00
CY 1981 1998 Mar lastSun 0:00 1:00
i 1910 1910 Jan 1 0:00 0:00
i 1977 1977 Mar 21 23:00 1:00
i 1977 1977 Oct 20 24:00 0:00
i 1978 1978 Mar 24 24:00 1:00
i 1978 1978 Aug 5 1:00 0:00
i 1979 1979 May 26 24:00 1:00
i 1979 1979 Sep 18 24:00 0:00
i 1980 1980 Mar 20 24:00 1:00
i 1980 1980 Sep 22 24:00 0:00
i 1991 1991 May 2 24:00 1:00
i 1992 1995 Mar 21 24:00 1:00
i 1991 1995 Sep 21 24:00 0:00
i 1996 1996 Mar 20 24:00 1:00
i 1996 1996 Sep 20 24:00 0:00
i 1997 1999 Mar 21 24:00 1:00
i 1997 1999 Sep 21 24:00 0:00
i 2000 2000 Mar 20 24:00 1:00
i 2000 2000 Sep 20 24:00 0:00
i 2001 2003 Mar 21 24:00 1:00
i 2001 2003 Sep 21 24:00 0:00
i 2004 2004 Mar 20 24:00 1:00
i 2004 2004 Sep 20 24:00 0:00
i 2005 2005 Mar 21 24:00 1:00
i 2005 2005 Sep 21 24:00 0:00
i 2008 2008 Mar 20 24:00 1:00
i 2008 2008 Sep 20 24:00 0:00
i 2009 2011 Mar 21 24:00 1:00
i 2009 2011 Sep 21 24:00 0:00
i 2012 2012 Mar 20 24:00 1:00
i 2012 2012 Sep 20 24:00 0:00
i 2013 2015 Mar 21 24:00 1:00
i 2013 2015 Sep 21 24:00 0:00
i 2016 2016 Mar 20 24:00 1:00
i 2016 2016 Sep 20 24:00 0:00
i 2017 2019 Mar 21 24:00 1:00
i 2017 2019 Sep 21 24:00 0:00
i 2020 2020 Mar 20 24:00 1:00
i 2020 2020 Sep 20 24:00 0:00
i 2021 2022 Mar 21 24:00 1:00
i 2021 2022 Sep 21 24:00 0:00
IQ 1982 1982 May 1 0:00 1:00
IQ 1982 1984 Oct 1 0:00 0:00
IQ 1983 1983 Mar 31 0:00 1:00
IQ 1984 1985 Apr 1 0:00 1:00
IQ 1985 1990 Sep lastSun 1:00s 0:00
IQ 1986 1990 Mar lastSun 1:00s 1:00
IQ 1991 2007 Apr 1 3:00s 1:00
IQ 1991 2007 Oct 1 3:00s 0:00
Z 1940 1940 May 31 24:00u 1:00
Z 1940 1940 Sep 30 24:00u 0:00
Z 1940 1940 Nov 16 24:00u 1:00
Z 1942 1946 Oct 31 24:00u 0:00
Z 1943 1944 Mar 31 24:00u 1:00
Z 1945 1946 Apr 15 24:00u 1:00
Z 1948 1948 May 22 24:00u 2:00
Z 1948 1948 Aug 31 24:00u 1:00
Z 1948 1949 Oct 31 24:00u 0:00
Z 1949 1949 Apr 30 24:00u 1:00
Z 1950 1950 Apr 15 24:00u 1:00
Z 1950 1950 Sep 14 24:00u 0:00
Z 1951 1951 Mar 31 24:00u 1:00
Z 1951 1951 Nov 10 24:00u 0:00
Z 1952 1952 Apr 19 24:00u 1:00
Z 1952 1952 Oct 18 24:00u 0:00
Z 1953 1953 Apr 11 24:00u 1:00
Z 1953 1953 Sep 12 24:00u 0:00
Z 1954 1954 Jun 12 24:00u 1:00
Z 1954 1954 Sep 11 24:00u 0:00
Z 1955 1955 Jun 11 24:00u 1:00
Z 1955 1955 Sep 10 24:00u 0:00
Z 1956 1956 Jun 2 24:00u 1:00
Z 1956 1956 Sep 29 24:00u 0:00
Z 1957 1957 Apr 27 24:00u 1:00
Z 1957 1957 Sep 21 24:00u 0:00
Z 1974 1974 Jul 6 24:00 1:00
Z 1974 1974 Oct 12 24:00 0:00
Z 1975 1975 Apr 19 24:00 1:00
Z 1975 1975 Aug 30 24:00 0:00
Z 1980 1980 Aug 2 24:00s 1:00
Z 1980 1980 Sep 13 24:00s 0:00
Z 1984 1984 May 5 24:00s 1:00
Z 1984 1984 Aug 25 24:00s 0:00
Z 1985 1985 Apr 13 24:00 1:00
Z 1985 1985 Aug 31 24:00 0:00
Z 1986 1986 May 17 24:00 1:00
Z 1986 1986 Sep 6 24:00 0:00
Z 1987 1987 Apr 14 24:00 1:00
Z 1987 1987 Sep 12 24:00 0:00
Z 1988 1988 Apr 9 24:00 1:00
Z 1988 1988 Sep 3 24:00 0:00
Z 1989 1989 Apr 29 24:00 1:00
Z 1989 1989 Sep 2 24:00 0:00
Z 1990 1990 Mar 24 24:00 1:00
Z 1990 1990 Aug 25 24:00 0:00
Z 1991 1991 Mar 23 24:00 1:00
Z 1991 1991 Aug 31 24:00 0:00
Z 1992 1992 Mar 28 24:00 1:00
Z 1992 1992 Sep 5 24:00 0:00
Z 1993 1993 Apr 2 0:00 1:00
Z 1993 1993 Sep 5 0:00 0:00
Z 1994 1994 Apr 1 0:00 1:00
Z 1994 1994 Aug 28 0:00 0:00
Z 1995 1995 Mar 31 0:00 1:00
Z 1995 1995 Sep 3 0:00 0:00
Z 1996 1996 Mar 14 24:00 1:00
Z 1996 1996 Sep 15 24:00 0:00
Z 1997 1997 Mar 20 24:00 1:00
Z 1997 1997 Sep 13 24:00 0:00
Z 1998 1998 Mar 20 0:00 1:00
Z 1998 1998 Sep 6 0:00 0:00
Z 1999 1999 Apr 2 2:00 1:00
Z 1999 1999 Sep 3 2:00 0:00
Z 2000 2000 Apr 14 2:00 1:00
Z 2000 2000 Oct 6 1:00 0:00
Z 2001 2001 Apr 9 1:00 1:00
Z 2001 2001 Sep 24 1:00 0:00
Z 2002 2002 Mar 29 1:00 1:00
Z 2002 2002 Oct 7 1:00 0:00
Z 2003 2003 Mar 28 1:00 1:00
Z 2003 2003 Oct 3 1:00 0:00
Z 2004 2004 Apr 7 1:00 1:00
Z 2004 2004 Sep 22 1:00 0:00
Z 2005 2012 Apr Fri<=1 2:00 1:00
Z 2005 2005 Oct 9 2:00 0:00
Z 2006 2006 Oct 1 2:00 0:00
Z 2007 2007 Sep 16 2:00 0:00
Z 2008 2008 Oct 5 2:00 0:00
Z 2009 2009 Sep 27 2:00 0:00
Z 2010 2010 Sep 12 2:00 0:00
Z 2011 2011 Oct 2 2:00 0:00
Z 2012 2012 Sep 23 2:00 0:00
Z 2013 max Mar Fri>=23 2:00 1:00
Z 2013 max Oct lastSun 2:00 0:00
JP 1948 1948 May Sat>=1 24:00 1:00
JP 1948 1951 Sep Sun>=9 1:00 0:00
JP 1949 1949 Apr Sat>=1 24:00 1:00
JP 1950 1951 May Sat>=1 24:00 1:00
J 1973 1973 Jun 6 0:00 1:00
J 1973 1975 Oct 1 0:00 0:00
J 1974 1977 May 1 0:00 1:00
J 1976 1976 Nov 1 0:00 0:00
J 1977 1977 Oct 1 0:00 0:00
J 1978 1978 Apr 30 0:00 1:00
J 1978 1978 Sep 30 0:00 0:00
J 1985 1985 Apr 1 0:00 1:00
J 1985 1985 Oct 1 0:00 0:00
J 1986 1988 Apr Fri>=1 0:00 1:00
J 1986 1990 Oct Fri>=1 0:00 0:00
J 1989 1989 May 8 0:00 1:00
J 1990 1990 Apr 27 0:00 1:00
J 1991 1991 Apr 17 0:00 1:00
J 1991 1991 Sep 27 0:00 0:00
J 1992 1992 Apr 10 0:00 1:00
J 1992 1993 Oct Fri>=1 0:00 0:00
J 1993 1998 Apr Fri>=1 0:00 1:00
J 1994 1994 Sep Fri>=15 0:00 0:00
J 1995 1998 Sep Fri>=15 0:00s 0:00
J 1999 1999 Jul 1 0:00s 1:00
J 1999 2002 Sep lastFri 0:00s 0:00
J 2000 2001 Mar lastThu 0:00s 1:00
J 2002 2012 Mar lastThu 24:00 1:00
J 2003 2003 Oct 24 0:00s 0:00
J 2004 2004 Oct 15 0:00s 0:00
J 2005 2005 Sep lastFri 0:00s 0:00
J 2006 2011 Oct lastFri 0:00s 0:00
J 2013 2013 Dec 20 0:00 0:00
J 2014 2021 Mar lastThu 24:00 1:00
J 2014 2022 Oct lastFri 0:00s 0:00
J 2022 2022 Feb lastThu 24:00 1:00
KG 1992 1996 Apr Sun>=7 0:00s 1:00
KG 1992 1996 Sep lastSun 0:00 0:00
KG 1997 2005 Mar lastSun 2:30 1:00
KG 1997 2004 Oct lastSun 2:30 0:00
KR 1948 1948 Jun 1 0:00 1:00
KR 1948 1948 Sep 12 24:00 0:00
KR 1949 1949 Apr 3 0:00 1:00
KR 1949 1951 Sep Sat>=7 24:00 0:00
KR 1950 1950 Apr 1 0:00 1:00
KR 1951 1951 May 6 0:00 1:00
KR 1955 1955 May 5 0:00 1:00
KR 1955 1955 Sep 8 24:00 0:00
KR 1956 1956 May 20 0:00 1:00
KR 1956 1956 Sep 29 24:00 0:00
KR 1957 1960 May Sun>=1 0:00 1:00
KR 1957 1960 Sep Sat>=17 24:00 0:00
KR 1987 1988 May Sun>=8 2:00 1:00
KR 1987 1988 Oct Sun>=8 3:00 0:00
l 1920 1920 Mar 28 0:00 1:00
l 1920 1920 Oct 25 0:00 0:00
l 1921 1921 Apr 3 0:00 1:00
l 1921 1921 Oct 3 0:00 0:00
l 1922 1922 Mar 26 0:00 1:00
l 1922 1922 Oct 8 0:00 0:00
l 1923 1923 Apr 22 0:00 1:00
l 1923 1923 Sep 16 0:00 0:00
l 1957 1961 May 1 0:00 1:00
l 1957 1961 Oct 1 0:00 0:00
l 1972 1972 Jun 22 0:00 1:00
l 1972 1977 Oct 1 0:00 0:00
l 1973 1977 May 1 0:00 1:00
l 1978 1978 Apr 30 0:00 1:00
l 1978 1978 Sep 30 0:00 0:00
l 1984 1987 May 1 0:00 1:00
l 1984 1991 Oct 16 0:00 0:00
l 1988 1988 Jun 1 0:00 1:00
l 1989 1989 May 10 0:00 1:00
l 1990 1992 May 1 0:00 1:00
l 1992 1992 Oct 4 0:00 0:00
l 1993 max Mar lastSun 0:00 1:00
l 1993 1998 Sep lastSun 0:00 0:00
l 1999 max Oct lastSun 0:00 0:00
NB 1935 1941 Sep 14 0:00 0:20
NB 1935 1941 Dec 14 0:00 0:00
X 1983 1984 Apr 1 0:00 1:00
X 1983 1983 Oct 1 0:00 0:00
X 1985 1998 Mar lastSun 0:00 1:00
X 1984 1998 Sep lastSun 0:00 0:00
X 2001 2001 Apr lastSat 2:00 1:00
X 2001 2006 Sep lastSat 2:00 0:00
X 2002 2006 Mar lastSat 2:00 1:00
X 2015 2016 Mar lastSat 2:00 1:00
X 2015 2016 Sep lastSat 0:00 0:00
PK 2002 2002 Apr Sun>=2 0:00 1:00
PK 2002 2002 Oct Sun>=2 0:00 0:00
PK 2008 2008 Jun 1 0:00 1:00
PK 2008 2009 Nov 1 0:00 0:00
PK 2009 2009 Apr 15 0:00 1:00
P 1999 2005 Apr Fri>=15 0:00 1:00
P 1999 2003 Oct Fri>=15 0:00 0:00
P 2004 2004 Oct 1 1:00 0:00
P 2005 2005 Oct 4 2:00 0:00
P 2006 2007 Apr 1 0:00 1:00
P 2006 2006 Sep 22 0:00 0:00
P 2007 2007 Sep 13 2:00 0:00
P 2008 2009 Mar lastFri 0:00 1:00
P 2008 2008 Sep 1 0:00 0:00
P 2009 2009 Sep 4 1:00 0:00
P 2010 2010 Mar 26 0:00 1:00
P 2010 2010 Aug 11 0:00 0:00
P 2011 2011 Apr 1 0:01 1:00
P 2011 2011 Aug 1 0:00 0:00
P 2011 2011 Aug 30 0:00 1:00
P 2011 2011 Sep 30 0:00 0:00
P 2012 2014 Mar lastThu 24:00 1:00
P 2012 2012 Sep 21 1:00 0:00
P 2013 2013 Sep 27 0:00 0:00
P 2014 2014 Oct 24 0:00 0:00
P 2015 2015 Mar 28 0:00 1:00
P 2015 2015 Oct 23 1:00 0:00
P 2016 2018 Mar Sat<=30 1:00 1:00
P 2016 2018 Oct Sat<=30 1:00 0:00
P 2019 2019 Mar 29 0:00 1:00
P 2019 2019 Oct Sat<=30 0:00 0:00
P 2020 2021 Mar Sat<=30 0:00 1:00
P 2020 2020 Oct 24 1:00 0:00
P 2021 2021 Oct 29 1:00 0:00
P 2022 2022 Mar 27 0:00 1:00
P 2022 2035 Oct Sat<=30 2:00 0:00
P 2023 2023 Apr 29 2:00 1:00
P 2024 2024 Apr 20 2:00 1:00
P 2025 2025 Apr 12 2:00 1:00
P 2026 2054 Mar Sat<=30 2:00 1:00
P 2036 2036 Oct 18 2:00 0:00
P 2037 2037 Oct 10 2:00 0:00
P 2038 2038 Sep 25 2:00 0:00
P 2039 2039 Sep 17 2:00 0:00
P 2040 2040 Sep 1 2:00 0:00
P 2040 2040 Oct 20 2:00 1:00
P 2040 2067 Oct Sat<=30 2:00 0:00
P 2041 2041 Aug 24 2:00 0:00
P 2041 2041 Oct 5 2:00 1:00
P 2042 2042 Aug 16 2:00 0:00
P 2042 2042 Sep 27 2:00 1:00
P 2043 2043 Aug 1 2:00 0:00
P 2043 2043 Sep 19 2:00 1:00
P 2044 2044 Jul 23 2:00 0:00
P 2044 2044 Sep 3 2:00 1:00
P 2045 2045 Jul 15 2:00 0:00
P 2045 2045 Aug 26 2:00 1:00
P 2046 2046 Jun 30 2:00 0:00
P 2046 2046 Aug 18 2:00 1:00
P 2047 2047 Jun 22 2:00 0:00
P 2047 2047 Aug 3 2:00 1:00
P 2048 2048 Jun 6 2:00 0:00
P 2048 2048 Jul 25 2:00 1:00
P 2049 2049 May 29 2:00 0:00
P 2049 2049 Jul 10 2:00 1:00
P 2050 2050 May 21 2:00 0:00
P 2050 2050 Jul 2 2:00 1:00
P 2051 2051 May 6 2:00 0:00
P 2051 2051 Jun 24 2:00 1:00
P 2052 2052 Apr 27 2:00 0:00
P 2052 2052 Jun 8 2:00 1:00
P 2053 2053 Apr 12 2:00 0:00
P 2053 2053 May 31 2:00 1:00
P 2054 2054 Apr 4 2:00 0:00
P 2054 2054 May 23 2:00 1:00
P 2055 2055 May 8 2:00 1:00
P 2056 2056 Apr 29 2:00 1:00
P 2057 2057 Apr 14 2:00 1:00
P 2058 2058 Apr 6 2:00 1:00
P 2059 max Mar Sat<=30 2:00 1:00
P 2068 2068 Oct 20 2:00 0:00
P 2069 2069 Oct 12 2:00 0:00
P 2070 2070 Oct 4 2:00 0:00
P 2071 2071 Sep 19 2:00 0:00
P 2072 2072 Sep 10 2:00 0:00
P 2072 2072 Oct 22 2:00 1:00
P 2072 max Oct Sat<=30 2:00 0:00
P 2073 2073 Sep 2 2:00 0:00
P 2073 2073 Oct 14 2:00 1:00
P 2074 2074 Aug 18 2:00 0:00
P 2074 2074 Oct 6 2:00 1:00
P 2075 2075 Aug 10 2:00 0:00
P 2075 2075 Sep 21 2:00 1:00
P 2076 2076 Jul 25 2:00 0:00
P 2076 2076 Sep 12 2:00 1:00
P 2077 2077 Jul 17 2:00 0:00
P 2077 2077 Sep 4 2:00 1:00
P 2078 2078 Jul 9 2:00 0:00
P 2078 2078 Aug 20 2:00 1:00
P 2079 2079 Jun 24 2:00 0:00
P 2079 2079 Aug 12 2:00 1:00
P 2080 2080 Jun 15 2:00 0:00
P 2080 2080 Jul 27 2:00 1:00
P 2081 2081 Jun 7 2:00 0:00
P 2081 2081 Jul 19 2:00 1:00
P 2082 2082 May 23 2:00 0:00
P 2082 2082 Jul 11 2:00 1:00
P 2083 2083 May 15 2:00 0:00
P 2083 2083 Jun 26 2:00 1:00
P 2084 2084 Apr 29 2:00 0:00
P 2084 2084 Jun 17 2:00 1:00
P 2085 2085 Apr 21 2:00 0:00
P 2085 2085 Jun 9 2:00 1:00
P 2086 2086 Apr 13 2:00 0:00
P 2086 2086 May 25 2:00 1:00
PH 1936 1936 Oct 31 24:00 1:00
PH 1937 1937 Jan 15 24:00 0:00
PH 1941 1941 Dec 15 24:00 1:00
PH 1945 1945 Nov 30 24:00 0:00
PH 1954 1954 Apr 11 24:00 1:00
PH 1954 1954 Jun 4 24:00 0:00
PH 1977 1977 Mar 27 24:00 1:00
PH 1977 1977 Sep 21 24:00 0:00
PH 1990 1990 May 21 0:00 1:00
PH 1990 1990 Jul 28 24:00 0:00
S 1920 1923 Apr Sun>=15 2:00 1:00
S 1920 1923 Oct Sun>=1 2:00 0:00
S 1962 1962 Apr 29 2:00 1:00
S 1962 1962 Oct 1 2:00 0:00
S 1963 1965 May 1 2:00 1:00
S 1963 1963 Sep 30 2:00 0:00
S 1964 1964 Oct 1 2:00 0:00
S 1965 1965 Sep 30 2:00 0:00
S 1966 1966 Apr 24 2:00 1:00
S 1966 1976 Oct 1 2:00 0:00
S 1967 1978 May 1 2:00 1:00
S 1977 1978 Sep 1 2:00 0:00
S 1983 1984 Apr 9 2:00 1:00
S 1983 1984 Oct 1 2:00 0:00
S 1986 1986 Feb 16 2:00 1:00
S 1986 1986 Oct 9 2:00 0:00
S 1987 1987 Mar 1 2:00 1:00
S 1987 1988 Oct 31 2:00 0:00
S 1988 1988 Mar 15 2:00 1:00
S 1989 1989 Mar 31 2:00 1:00
S 1989 1989 Oct 1 2:00 0:00
S 1990 1990 Apr 1 2:00 1:00
S 1990 1990 Sep 30 2:00 0:00
S 1991 1991 Apr 1 0:00 1:00
S 1991 1992 Oct 1 0:00 0:00
S 1992 1992 Apr 8 0:00 1:00
S 1993 1993 Mar 26 0:00 1:00
S 1993 1993 Sep 25 0:00 0:00
S 1994 1996 Apr 1 0:00 1:00
S 1994 2005 Oct 1 0:00 0:00
S 1997 1998 Mar lastMon 0:00 1:00
S 1999 2006 Apr 1 0:00 1:00
S 2006 2006 Sep 22 0:00 0:00
S 2007 2007 Mar lastFri 0:00 1:00
S 2007 2007 Nov Fri>=1 0:00 0:00
S 2008 2008 Apr Fri>=1 0:00 1:00
S 2008 2008 Nov 1 0:00 0:00
S 2009 2009 Mar lastFri 0:00 1:00
S 2010 2011 Apr Fri>=1 0:00 1:00
S 2012 2022 Mar lastFri 0:00 1:00
S 2009 2022 Oct lastFri 0:00 0:00
AU 1917 1917 Jan 1 2:00s 1:00
AU 1917 1917 Mar lastSun 2:00s 0:00
AU 1942 1942 Jan 1 2:00s 1:00
AU 1942 1942 Mar lastSun 2:00s 0:00
AU 1942 1942 Sep 27 2:00s 1:00
AU 1943 1944 Mar lastSun 2:00s 0:00
AU 1943 1943 Oct 3 2:00s 1:00
AW 1974 1974 Oct lastSun 2:00s 1:00
AW 1975 1975 Mar Sun>=1 2:00s 0:00
AW 1983 1983 Oct lastSun 2:00s 1:00
AW 1984 1984 Mar Sun>=1 2:00s 0:00
AW 1991 1991 Nov 17 2:00s 1:00
AW 1992 1992 Mar Sun>=1 2:00s 0:00
AW 2006 2006 Dec 3 2:00s 1:00
AW 2007 2009 Mar lastSun 2:00s 0:00
AW 2007 2008 Oct lastSun 2:00s 1:00
AQ 1971 1971 Oct lastSun 2:00s 1:00
AQ 1972 1972 Feb lastSun 2:00s 0:00
AQ 1989 1991 Oct lastSun 2:00s 1:00
AQ 1990 1992 Mar Sun>=1 2:00s 0:00
Ho 1992 1993 Oct lastSun 2:00s 1:00
Ho 1993 1994 Mar Sun>=1 2:00s 0:00
AS 1971 1985 Oct lastSun 2:00s 1:00
AS 1986 1986 Oct 19 2:00s 1:00
AS 1987 2007 Oct lastSun 2:00s 1:00
AS 1972 1972 Feb 27 2:00s 0:00
AS 1973 1985 Mar Sun>=1 2:00s 0:00
AS 1986 1990 Mar Sun>=15 2:00s 0:00
AS 1991 1991 Mar 3 2:00s 0:00
AS 1992 1992 Mar 22 2:00s 0:00
AS 1993 1993 Mar 7 2:00s 0:00
AS 1994 1994 Mar 20 2:00s 0:00
AS 1995 2005 Mar lastSun 2:00s 0:00
AS 2006 2006 Apr 2 2:00s 0:00
AS 2007 2007 Mar lastSun 2:00s 0:00
AS 2008 max Apr Sun>=1 2:00s 0:00
AS 2008 max Oct Sun>=1 2:00s 1:00
AT 1916 1916 Oct Sun>=1 2:00s 1:00
AT 1917 1917 Mar lastSun 2:00s 0:00
AT 1917 1918 Oct Sun>=22 2:00s 1:00
AT 1918 1919 Mar Sun>=1 2:00s 0:00
AT 1967 1967 Oct Sun>=1 2:00s 1:00
AT 1968 1968 Mar Sun>=29 2:00s 0:00
AT 1968 1985 Oct lastSun 2:00s 1:00
AT 1969 1971 Mar Sun>=8 2:00s 0:00
AT 1972 1972 Feb lastSun 2:00s 0:00
AT 1973 1981 Mar Sun>=1 2:00s 0:00
AT 1982 1983 Mar lastSun 2:00s 0:00
AT 1984 1986 Mar Sun>=1 2:00s 0:00
AT 1986 1986 Oct Sun>=15 2:00s 1:00
AT 1987 1990 Mar Sun>=15 2:00s 0:00
AT 1987 1987 Oct Sun>=22 2:00s 1:00
AT 1988 1990 Oct lastSun 2:00s 1:00
AT 1991 1999 Oct Sun>=1 2:00s 1:00
AT 1991 2005 Mar lastSun 2:00s 0:00
AT 2000 2000 Aug lastSun 2:00s 1:00
AT 2001 max Oct Sun>=1 2:00s 1:00
AT 2006 2006 Apr Sun>=1 2:00s 0:00
AT 2007 2007 Mar lastSun 2:00s 0:00
AT 2008 max Apr Sun>=1 2:00s 0:00
AV 1971 1985 Oct lastSun 2:00s 1:00
AV 1972 1972 Feb lastSun 2:00s 0:00
AV 1973 1985 Mar Sun>=1 2:00s 0:00
AV 1986 1990 Mar Sun>=15 2:00s 0:00
AV 1986 1987 Oct Sun>=15 2:00s 1:00
AV 1988 1999 Oct lastSun 2:00s 1:00
AV 1991 1994 Mar Sun>=1 2:00s 0:00
AV 1995 2005 Mar lastSun 2:00s 0:00
AV 2000 2000 Aug lastSun 2:00s 1:00
AV 2001 2007 Oct lastSun 2:00s 1:00
AV 2006 2006 Apr Sun>=1 2:00s 0:00
AV 2007 2007 Mar lastSun 2:00s 0:00
AV 2008 max Apr Sun>=1 2:00s 0:00
AV 2008 max Oct Sun>=1 2:00s 1:00
AN 1971 1985 Oct lastSun 2:00s 1:00
AN 1972 1972 Feb 27 2:00s 0:00
AN 1973 1981 Mar Sun>=1 2:00s 0:00
AN 1982 1982 Apr Sun>=1 2:00s 0:00
AN 1983 1985 Mar Sun>=1 2:00s 0:00
AN 1986 1989 Mar Sun>=15 2:00s 0:00
AN 1986 1986 Oct 19 2:00s 1:00
AN 1987 1999 Oct lastSun 2:00s 1:00
AN 1990 1995 Mar Sun>=1 2:00s 0:00
AN 1996 2005 Mar lastSun 2:00s 0:00
AN 2000 2000 Aug lastSun 2:00s 1:00
AN 2001 2007 Oct lastSun 2:00s 1:00
AN 2006 2006 Apr Sun>=1 2:00s 0:00
AN 2007 2007 Mar lastSun 2:00s 0:00
AN 2008 max Apr Sun>=1 2:00s 0:00
AN 2008 max Oct Sun>=1 2:00s 1:00
LH 1981 1984 Oct lastSun 2:00 1:00
LH 1982 1985 Mar Sun>=1 2:00 0:00
LH 1985 1985 Oct lastSun 2:00 0:30
LH 1986 1989 Mar Sun>=15 2:00 0:00
LH 1986 1986 Oct 19 2:00 0:30
LH 1987 1999 Oct lastSun 2:00 0:30
LH 1990 1995 Mar Sun>=1 2:00 0:00
LH 1996 2005 Mar lastSun 2:00 0:00
LH 2000 2000 Aug lastSun 2:00 0:30
LH 2001 2007 Oct lastSun 2:00 0:30
LH 2006 2006 Apr Sun>=1 2:00 0:00
LH 2007 2007 Mar lastSun 2:00 0:00
LH 2008 max Apr Sun>=1 2:00 0:00
LH 2008 max Oct Sun>=1 2:00 0:30
FJ 1998 1999 Nov Sun>=1 2:00 1:00
FJ 1999 2000 Feb lastSun 3:00 0:00
FJ 2009 2009 Nov 29 2:00 1:00
FJ 2010 2010 Mar lastSun 3:00 0:00
FJ 2010 2013 Oct Sun>=21 2:00 1:00
FJ 2011 2011 Mar Sun>=1 3:00 0:00
FJ 2012 2013 Jan Sun>=18 3:00 0:00
FJ 2014 2014 Jan Sun>=18 2:00 0:00
FJ 2014 2018 Nov Sun>=1 2:00 1:00
FJ 2015 2021 Jan Sun>=12 3:00 0:00
FJ 2019 2019 Nov Sun>=8 2:00 1:00
FJ 2020 2020 Dec 20 2:00 1:00
Gu 1959 1959 Jun 27 2:00 1:00
Gu 1961 1961 Jan 29 2:00 0:00
Gu 1967 1967 Sep 1 2:00 1:00
Gu 1969 1969 Jan 26 0:01 0:00
Gu 1969 1969 Jun 22 2:00 1:00
Gu 1969 1969 Aug 31 2:00 0:00
Gu 1970 1971 Apr lastSun 2:00 1:00
Gu 1970 1971 Sep Sun>=1 2:00 0:00
Gu 1973 1973 Dec 16 2:00 1:00
Gu 1974 1974 Feb 24 2:00 0:00
Gu 1976 1976 May 26 2:00 1:00
Gu 1976 1976 Aug 22 2:01 0:00
Gu 1977 1977 Apr 24 2:00 1:00
Gu 1977 1977 Aug 28 2:00 0:00
NC 1977 1978 Dec Sun>=1 0:00 1:00
NC 1978 1979 Feb 27 0:00 0:00
NC 1996 1996 Dec 1 2:00s 1:00
NC 1997 1997 Mar 2 2:00s 0:00
NZ 1927 1927 Nov 6 2:00 1:00
NZ 1928 1928 Mar 4 2:00 0:00
NZ 1928 1933 Oct Sun>=8 2:00 0:30
NZ 1929 1933 Mar Sun>=15 2:00 0:00
NZ 1934 1940 Apr lastSun 2:00 0:00
NZ 1934 1940 Sep lastSun 2:00 0:30
NZ 1946 1946 Jan 1 0:00 0:00
NZ 1974 1974 Nov Sun>=1 2:00s 1:00
NZ 1975 1975 Feb lastSun 2:00s 0:00
NZ 1975 1988 Oct lastSun 2:00s 1:00
NZ 1976 1989 Mar Sun>=1 2:00s 0:00
NZ 1989 1989 Oct Sun>=8 2:00s 1:00
NZ 1990 2006 Oct Sun>=1 2:00s 1:00
NZ 1990 2007 Mar Sun>=15 2:00s 0:00
NZ 2007 max Sep lastSun 2:00s 1:00
NZ 2008 max Apr Sun>=1 2:00s 0:00
k 1974 1974 Nov Sun>=1 2:45s 1:00
k 1975 1975 Feb lastSun 2:45s 0:00
k 1975 1988 Oct lastSun 2:45s 1:00
k 1976 1989 Mar Sun>=1 2:45s 0:00
k 1989 1989 Oct Sun>=8 2:45s 1:00
k 1990 2006 Oct Sun>=1 2:45s 1:00
k 1990 2007 Mar Sun>=15 2:45s 0:00
k 2007 max Sep lastSun 2:45s 1:00
k 2008 max Apr Sun>=1 2:45s 0:00
CK 1978 1978 Nov 12 0:00 0:30
CK 1979 1991 Mar Sun>=1 0:00 0:00
CK 1979 1990 Oct lastSun 0:00 0:30
WS 2010 2010 Sep lastSun 0:00 1:00
WS 2011 2011 Apr Sat>=1 4:00 0:00
WS 2011 2011 Sep lastSat 3:00 1:00
WS 2012 2021 Apr Sun>=1 4:00 0:00
WS 2012 2020 Sep lastSun 3:00 1:00
TO 1999 1999 Oct 7 2:00s 1:00
TO 2000 2000 Mar 19 2:00s 0:00
TO 2000 2001 Nov Sun>=1 2:00 1:00
TO 2001 2002 Jan lastSun 2:00 0:00
TO 2016 2016 Nov Sun>=1 2:00 1:00
TO 2017 2017 Jan Sun>=15 3:00 0:00
VU 1973 1973 Dec 22 12:00u 1:00
VU 1974 1974 Mar 30 12:00u 0:00
VU 1983 1991 Sep Sat>=22 24:00 1:00
VU 1984 1991 Mar Sat>=22 24:00 0:00
VU 1992 1993 Jan Sat>=22 24:00 0:00
VU 1992 1992 Oct Sat>=22 24:00 1:00
G 1916 1916 May 21 2:00s 1:00
G 1916 1916 Oct 1 2:00s 0:00
G 1917 1917 Apr 8 2:00s 1:00
G 1917 1917 Sep 17 2:00s 0:00
G 1918 1918 Mar 24 2:00s 1:00
G 1918 1918 Sep 30 2:00s 0:00
G 1919 1919 Mar 30 2:00s 1:00
G 1919 1919 Sep 29 2:00s 0:00
G 1920 1920 Mar 28 2:00s 1:00
G 1920 1920 Oct 25 2:00s 0:00
G 1921 1921 Apr 3 2:00s 1:00
G 1921 1921 Oct 3 2:00s 0:00
G 1922 1922 Mar 26 2:00s 1:00
G 1922 1922 Oct 8 2:00s 0:00
G 1923 1923 Apr Sun>=16 2:00s 1:00
G 1923 1924 Sep Sun>=16 2:00s 0:00
G 1924 1924 Apr Sun>=9 2:00s 1:00
G 1925 1926 Apr Sun>=16 2:00s 1:00
G 1925 1938 Oct Sun>=2 2:00s 0:00
G 1927 1927 Apr Sun>=9 2:00s 1:00
G 1928 1929 Apr Sun>=16 2:00s 1:00
G 1930 1930 Apr Sun>=9 2:00s 1:00
G 1931 1932 Apr Sun>=16 2:00s 1:00
G 1933 1933 Apr Sun>=9 2:00s 1:00
G 1934 1934 Apr Sun>=16 2:00s 1:00
G 1935 1935 Apr Sun>=9 2:00s 1:00
G 1936 1937 Apr Sun>=16 2:00s 1:00
G 1938 1938 Apr Sun>=9 2:00s 1:00
G 1939 1939 Apr Sun>=16 2:00s 1:00
G 1939 1939 Nov Sun>=16 2:00s 0:00
G 1940 1940 Feb Sun>=23 2:00s 1:00
G 1941 1941 May Sun>=2 1:00s 2:00
G 1941 1943 Aug Sun>=9 1:00s 1:00
G 1942 1944 Apr Sun>=2 1:00s 2:00
G 1944 1944 Sep Sun>=16 1:00s 1:00
G 1945 1945 Apr Mon>=2 1:00s 2:00
G 1945 1945 Jul Sun>=9 1:00s 1:00
G 1945 1946 Oct Sun>=2 2:00s 0:00
G 1946 1946 Apr Sun>=9 2:00s 1:00
G 1947 1947 Mar 16 2:00s 1:00
G 1947 1947 Apr 13 1:00s 2:00
G 1947 1947 Aug 10 1:00s 1:00
G 1947 1947 Nov 2 2:00s 0:00
G 1948 1948 Mar 14 2:00s 1:00
G 1948 1948 Oct 31 2:00s 0:00
G 1949 1949 Apr 3 2:00s 1:00
G 1949 1949 Oct 30 2:00s 0:00
G 1950 1952 Apr Sun>=14 2:00s 1:00
G 1950 1952 Oct Sun>=21 2:00s 0:00
G 1953 1953 Apr Sun>=16 2:00s 1:00
G 1953 1960 Oct Sun>=2 2:00s 0:00
G 1954 1954 Apr Sun>=9 2:00s 1:00
G 1955 1956 Apr Sun>=16 2:00s 1:00
G 1957 1957 Apr Sun>=9 2:00s 1:00
G 1958 1959 Apr Sun>=16 2:00s 1:00
G 1960 1960 Apr Sun>=9 2:00s 1:00
G 1961 1963 Mar lastSun 2:00s 1:00
G 1961 1968 Oct Sun>=23 2:00s 0:00
G 1964 1967 Mar Sun>=19 2:00s 1:00
G 1968 1968 Feb 18 2:00s 1:00
G 1972 1980 Mar Sun>=16 2:00s 1:00
G 1972 1980 Oct Sun>=23 2:00s 0:00
G 1981 1995 Mar lastSun 1:00u 1:00
G 1981 1989 Oct Sun>=23 1:00u 0:00
G 1990 1995 Oct Sun>=22 1:00u 0:00
E 1977 1980 Apr Sun>=1 1:00u 1:00
E 1977 1977 Sep lastSun 1:00u 0:00
E 1978 1978 Oct 1 1:00u 0:00
E 1979 1995 Sep lastSun 1:00u 0:00
E 1981 max Mar lastSun 1:00u 1:00
E 1996 max Oct lastSun 1:00u 0:00
W- 1977 1980 Apr Sun>=1 1:00s 1:00
W- 1977 1977 Sep lastSun 1:00s 0:00
W- 1978 1978 Oct 1 1:00s 0:00
W- 1979 1995 Sep lastSun 1:00s 0:00
W- 1981 max Mar lastSun 1:00s 1:00
W- 1996 max Oct lastSun 1:00s 0:00
c 1916 1916 Apr 30 23:00 1:00
c 1916 1916 Oct 1 1:00 0:00
c 1917 1918 Apr Mon>=15 2:00s 1:00
c 1917 1918 Sep Mon>=15 2:00s 0:00
c 1940 1940 Apr 1 2:00s 1:00
c 1942 1942 Nov 2 2:00s 0:00
c 1943 1943 Mar 29 2:00s 1:00
c 1943 1943 Oct 4 2:00s 0:00
c 1944 1945 Apr Mon>=1 2:00s 1:00
c 1944 1944 Oct 2 2:00s 0:00
c 1945 1945 Sep 16 2:00s 0:00
c 1977 1980 Apr Sun>=1 2:00s 1:00
c 1977 1977 Sep lastSun 2:00s 0:00
c 1978 1978 Oct 1 2:00s 0:00
c 1979 1995 Sep lastSun 2:00s 0:00
c 1981 max Mar lastSun 2:00s 1:00
c 1996 max Oct lastSun 2:00s 0:00
e 1977 1980 Apr Sun>=1 0:00 1:00
e 1977 1977 Sep lastSun 0:00 0:00
e 1978 1978 Oct 1 0:00 0:00
e 1979 1995 Sep lastSun 0:00 0:00
e 1981 max Mar lastSun 0:00 1:00
e 1996 max Oct lastSun 0:00 0:00
R 1917 1917 Jul 1 23:00 1:00
R 1917 1917 Dec 28 0:00 0:00
R 1918 1918 May 31 22:00 2:00
R 1918 1918 Sep 16 1:00 1:00
R 1919 1919 May 31 23:00 2:00
R 1919 1919 Jul 1 0:00u 1:00
R 1919 1919 Aug 16 0:00 0:00
R 1921 1921 Feb 14 23:00 1:00
R 1921 1921 Mar 20 23:00 2:00
R 1921 1921 Sep 1 0:00 1:00
R 1921 1921 Oct 1 0:00 0:00
R 1981 1984 Apr 1 0:00 1:00
R 1981 1983 Oct 1 0:00 0:00
R 1984 1995 Sep lastSun 2:00s 0:00
R 1985 2010 Mar lastSun 2:00s 1:00
R 1996 2010 Oct lastSun 2:00s 0:00
q 1940 1940 Jun 16 0:00 1:00
q 1942 1942 Nov 2 3:00 0:00
q 1943 1943 Mar 29 2:00 1:00
q 1943 1943 Apr 10 3:00 0:00
q 1974 1974 May 4 0:00 1:00
q 1974 1974 Oct 2 0:00 0:00
q 1975 1975 May 1 0:00 1:00
q 1975 1975 Oct 2 0:00 0:00
q 1976 1976 May 2 0:00 1:00
q 1976 1976 Oct 3 0:00 0:00
q 1977 1977 May 8 0:00 1:00
q 1977 1977 Oct 2 0:00 0:00
q 1978 1978 May 6 0:00 1:00
q 1978 1978 Oct 1 0:00 0:00
q 1979 1979 May 5 0:00 1:00
q 1979 1979 Sep 30 0:00 0:00
q 1980 1980 May 3 0:00 1:00
q 1980 1980 Oct 4 0:00 0:00
q 1981 1981 Apr 26 0:00 1:00
q 1981 1981 Sep 27 0:00 0:00
q 1982 1982 May 2 0:00 1:00
q 1982 1982 Oct 3 0:00 0:00
q 1983 1983 Apr 18 0:00 1:00
q 1983 1983 Oct 1 0:00 0:00
q 1984 1984 Apr 1 0:00 1:00
a 1920 1920 Apr 5 2:00s 1:00
a 1920 1920 Sep 13 2:00s 0:00
a 1946 1946 Apr 14 2:00s 1:00
a 1946 1946 Oct 7 2:00s 0:00
a 1947 1948 Oct Sun>=1 2:00s 0:00
a 1947 1947 Apr 6 2:00s 1:00
a 1948 1948 Apr 18 2:00s 1:00
a 1980 1980 Apr 6 0:00 1:00
a 1980 1980 Sep 28 0:00 0:00
b 1918 1918 Mar 9 0:00s 1:00
b 1918 1919 Oct Sat>=1 23:00s 0:00
b 1919 1919 Mar 1 23:00s 1:00
b 1920 1920 Feb 14 23:00s 1:00
b 1920 1920 Oct 23 23:00s 0:00
b 1921 1921 Mar 14 23:00s 1:00
b 1921 1921 Oct 25 23:00s 0:00
b 1922 1922 Mar 25 23:00s 1:00
b 1922 1927 Oct Sat>=1 23:00s 0:00
b 1923 1923 Apr 21 23:00s 1:00
b 1924 1924 Mar 29 23:00s 1:00
b 1925 1925 Apr 4 23:00s 1:00
b 1926 1926 Apr 17 23:00s 1:00
b 1927 1927 Apr 9 23:00s 1:00
b 1928 1928 Apr 14 23:00s 1:00
b 1928 1938 Oct Sun>=2 2:00s 0:00
b 1929 1929 Apr 21 2:00s 1:00
b 1930 1930 Apr 13 2:00s 1:00
b 1931 1931 Apr 19 2:00s 1:00
b 1932 1932 Apr 3 2:00s 1:00
b 1933 1933 Mar 26 2:00s 1:00
b 1934 1934 Apr 8 2:00s 1:00
b 1935 1935 Mar 31 2:00s 1:00
b 1936 1936 Apr 19 2:00s 1:00
b 1937 1937 Apr 4 2:00s 1:00
b 1938 1938 Mar 27 2:00s 1:00
b 1939 1939 Apr 16 2:00s 1:00
b 1939 1939 Nov 19 2:00s 0:00
b 1940 1940 Feb 25 2:00s 1:00
b 1944 1944 Sep 17 2:00s 0:00
b 1945 1945 Apr 2 2:00s 1:00
b 1945 1945 Sep 16 2:00s 0:00
b 1946 1946 May 19 2:00s 1:00
b 1946 1946 Oct 7 2:00s 0:00
BG 1979 1979 Mar 31 23:00 1:00
BG 1979 1979 Oct 1 1:00 0:00
BG 1980 1982 Apr Sat>=1 23:00 1:00
BG 1980 1980 Sep 29 1:00 0:00
BG 1981 1981 Sep 27 2:00 0:00
CZ 1945 1945 Apr Mon>=1 2:00s 1:00
CZ 1945 1945 Oct 1 2:00s 0:00
CZ 1946 1946 May 6 2:00s 1:00
CZ 1946 1949 Oct Sun>=1 2:00s 0:00
CZ 1947 1948 Apr Sun>=15 2:00s 1:00
CZ 1949 1949 Apr 9 2:00s 1:00
Th 1991 1992 Mar lastSun 2:00 1:00
Th 1991 1992 Sep lastSun 2:00 0:00
Th 1993 2006 Apr Sun>=1 2:00 1:00
Th 1993 2006 Oct lastSun 2:00 0:00
Th 2007 max Mar Sun>=8 2:00 1:00
Th 2007 max Nov Sun>=1 2:00 0:00
FI 1942 1942 Apr 2 24:00 1:00
FI 1942 1942 Oct 4 1:00 0:00
FI 1981 1982 Mar lastSun 2:00 1:00
FI 1981 1982 Sep lastSun 3:00 0:00
F 1916 1916 Jun 14 23:00s 1:00
F 1916 1919 Oct Sun>=1 23:00s 0:00
F 1917 1917 Mar 24 23:00s 1:00
F 1918 1918 Mar 9 23:00s 1:00
F 1919 1919 Mar 1 23:00s 1:00
F 1920 1920 Feb 14 23:00s 1:00
F 1920 1920 Oct 23 23:00s 0:00
F 1921 1921 Mar 14 23:00s 1:00
F 1921 1921 Oct 25 23:00s 0:00
F 1922 1922 Mar 25 23:00s 1:00
F 1922 1938 Oct Sat>=1 23:00s 0:00
F 1923 1923 May 26 23:00s 1:00
F 1924 1924 Mar 29 23:00s 1:00
F 1925 1925 Apr 4 23:00s 1:00
F 1926 1926 Apr 17 23:00s 1:00
F 1927 1927 Apr 9 23:00s 1:00
F 1928 1928 Apr 14 23:00s 1:00
F 1929 1929 Apr 20 23:00s 1:00
F 1930 1930 Apr 12 23:00s 1:00
F 1931 1931 Apr 18 23:00s 1:00
F 1932 1932 Apr 2 23:00s 1:00
F 1933 1933 Mar 25 23:00s 1:00
F 1934 1934 Apr 7 23:00s 1:00
F 1935 1935 Mar 30 23:00s 1:00
F 1936 1936 Apr 18 23:00s 1:00
F 1937 1937 Apr 3 23:00s 1:00
F 1938 1938 Mar 26 23:00s 1:00
F 1939 1939 Apr 15 23:00s 1:00
F 1939 1939 Nov 18 23:00s 0:00
F 1940 1940 Feb 25 2:00 1:00
F 1941 1941 May 5 0:00 2:00
F 1941 1941 Oct 6 0:00 1:00
F 1942 1942 Mar 9 0:00 2:00
F 1942 1942 Nov 2 3:00 1:00
F 1943 1943 Mar 29 2:00 2:00
F 1943 1943 Oct 4 3:00 1:00
F 1944 1944 Apr 3 2:00 2:00
F 1944 1944 Oct 8 1:00 1:00
F 1945 1945 Apr 2 2:00 2:00
F 1945 1945 Sep 16 3:00 0:00
F 1976 1976 Mar 28 1:00 1:00
F 1976 1976 Sep 26 1:00 0:00
DE 1946 1946 Apr 14 2:00s 1:00
DE 1946 1946 Oct 7 2:00s 0:00
DE 1947 1949 Oct Sun>=1 2:00s 0:00
DE 1947 1947 Apr 6 3:00s 1:00
DE 1947 1947 May 11 2:00s 2:00
DE 1947 1947 Jun 29 3:00 1:00
DE 1948 1948 Apr 18 2:00s 1:00
DE 1949 1949 Apr 10 2:00s 1:00
So 1945 1945 May 24 2:00 2:00
So 1945 1945 Sep 24 3:00 1:00
So 1945 1945 Nov 18 2:00s 0:00
g 1932 1932 Jul 7 0:00 1:00
g 1932 1932 Sep 1 0:00 0:00
g 1941 1941 Apr 7 0:00 1:00
g 1942 1942 Nov 2 3:00 0:00
g 1943 1943 Mar 30 0:00 1:00
g 1943 1943 Oct 4 0:00 0:00
g 1952 1952 Jul 1 0:00 1:00
g 1952 1952 Nov 2 0:00 0:00
g 1975 1975 Apr 12 0:00s 1:00
g 1975 1975 Nov 26 0:00s 0:00
g 1976 1976 Apr 11 2:00s 1:00
g 1976 1976 Oct 10 2:00s 0:00
g 1977 1978 Apr Sun>=1 2:00s 1:00
g 1977 1977 Sep 26 2:00s 0:00
g 1978 1978 Sep 24 4:00 0:00
g 1979 1979 Apr 1 9:00 1:00
g 1979 1979 Sep 29 2:00 0:00
g 1980 1980 Apr 1 0:00 1:00
g 1980 1980 Sep 28 0:00 0:00
h 1918 1919 Apr 15 2:00 1:00
h 1918 1920 Sep Mon>=15 3:00 0:00
h 1920 1920 Apr 5 2:00 1:00
h 1945 1945 May 1 23:00 1:00
h 1945 1945 Nov 1 1:00 0:00
h 1946 1946 Mar 31 2:00s 1:00
h 1946 1946 Oct 7 2:00 0:00
h 1947 1949 Apr Sun>=4 2:00s 1:00
h 1947 1949 Oct Sun>=1 2:00s 0:00
h 1954 1954 May 23 0:00 1:00
h 1954 1954 Oct 3 0:00 0:00
h 1955 1955 May 22 2:00 1:00
h 1955 1955 Oct 2 3:00 0:00
h 1956 1957 Jun Sun>=1 2:00 1:00
h 1956 1957 Sep lastSun 3:00 0:00
h 1980 1980 Apr 6 0:00 1:00
h 1980 1980 Sep 28 1:00 0:00
h 1981 1983 Mar lastSun 0:00 1:00
h 1981 1983 Sep lastSun 1:00 0:00
I 1916 1916 Jun 3 24:00 1:00
I 1916 1917 Sep 30 24:00 0:00
I 1917 1917 Mar 31 24:00 1:00
I 1918 1918 Mar 9 24:00 1:00
I 1918 1918 Oct 6 24:00 0:00
I 1919 1919 Mar 1 24:00 1:00
I 1919 1919 Oct 4 24:00 0:00
I 1920 1920 Mar 20 24:00 1:00
I 1920 1920 Sep 18 24:00 0:00
I 1940 1940 Jun 14 24:00 1:00
I 1942 1942 Nov 2 2:00s 0:00
I 1943 1943 Mar 29 2:00s 1:00
I 1943 1943 Oct 4 2:00s 0:00
I 1944 1944 Apr 2 2:00s 1:00
I 1944 1944 Sep 17 2:00s 0:00
I 1945 1945 Apr 2 2:00 1:00
I 1945 1945 Sep 15 1:00 0:00
I 1946 1946 Mar 17 2:00s 1:00
I 1946 1946 Oct 6 2:00s 0:00
I 1947 1947 Mar 16 0:00s 1:00
I 1947 1947 Oct 5 0:00s 0:00
I 1948 1948 Feb 29 2:00s 1:00
I 1948 1948 Oct 3 2:00s 0:00
I 1966 1968 May Sun>=22 0:00s 1:00
I 1966 1966 Sep 24 24:00 0:00
I 1967 1969 Sep Sun>=22 0:00s 0:00
I 1969 1969 Jun 1 0:00s 1:00
I 1970 1970 May 31 0:00s 1:00
I 1970 1970 Sep lastSun 0:00s 0:00
I 1971 1972 May Sun>=22 0:00s 1:00
I 1971 1971 Sep lastSun 0:00s 0:00
I 1972 1972 Oct 1 0:00s 0:00
I 1973 1973 Jun 3 0:00s 1:00
I 1973 1974 Sep lastSun 0:00s 0:00
I 1974 1974 May 26 0:00s 1:00
I 1975 1975 Jun 1 0:00s 1:00
I 1975 1977 Sep lastSun 0:00s 0:00
I 1976 1976 May 30 0:00s 1:00
I 1977 1979 May Sun>=22 0:00s 1:00
I 1978 1978 Oct 1 0:00s 0:00
I 1979 1979 Sep 30 0:00s 0:00
LV 1989 1996 Mar lastSun 2:00s 1:00
LV 1989 1996 Sep lastSun 2:00s 0:00
MT 1973 1973 Mar 31 0:00s 1:00
MT 1973 1973 Sep 29 0:00s 0:00
MT 1974 1974 Apr 21 0:00s 1:00
MT 1974 1974 Sep 16 0:00s 0:00
MT 1975 1979 Apr Sun>=15 2:00 1:00
MT 1975 1980 Sep Sun>=15 2:00 0:00
MT 1980 1980 Mar 31 2:00 1:00
MD 1997 max Mar lastSun 2:00 1:00
MD 1997 max Oct lastSun 3:00 0:00
O 1918 1919 Sep 16 2:00s 0:00
O 1919 1919 Apr 15 2:00s 1:00
O 1944 1944 Apr 3 2:00s 1:00
O 1944 1944 Oct 4 2:00 0:00
O 1945 1945 Apr 29 0:00 1:00
O 1945 1945 Nov 1 0:00 0:00
O 1946 1946 Apr 14 0:00s 1:00
O 1946 1946 Oct 7 2:00s 0:00
O 1947 1947 May 4 2:00s 1:00
O 1947 1949 Oct Sun>=1 2:00s 0:00
O 1948 1948 Apr 18 2:00s 1:00
O 1949 1949 Apr 10 2:00s 1:00
O 1957 1957 Jun 2 1:00s 1:00
O 1957 1958 Sep lastSun 1:00s 0:00
O 1958 1958 Mar 30 1:00s 1:00
O 1959 1959 May 31 1:00s 1:00
O 1959 1961 Oct Sun>=1 1:00s 0:00
O 1960 1960 Apr 3 1:00s 1:00
O 1961 1964 May lastSun 1:00s 1:00
O 1962 1964 Sep lastSun 1:00s 0:00
p 1916 1916 Jun 17 23:00 1:00
p 1916 1916 Nov 1 1:00 0:00
p 1917 1921 Mar 1 0:00 1:00
p 1917 1921 Oct 14 24:00 0:00
p 1924 1924 Apr 16 23:00s 1:00
p 1924 1924 Oct 4 23:00s 0:00
p 1926 1926 Apr 17 23:00s 1:00
p 1926 1929 Oct Sat>=1 23:00s 0:00
p 1927 1927 Apr 9 23:00s 1:00
p 1928 1928 Apr 14 23:00s 1:00
p 1929 1929 Apr 20 23:00s 1:00
p 1931 1931 Apr 18 23:00s 1:00
p 1931 1932 Oct Sat>=1 23:00s 0:00
p 1932 1932 Apr 2 23:00s 1:00
p 1934 1934 Apr 7 23:00s 1:00
p 1934 1938 Oct Sat>=1 23:00s 0:00
p 1935 1935 Mar 30 23:00s 1:00
p 1936 1936 Apr 18 23:00s 1:00
p 1937 1937 Apr 3 23:00s 1:00
p 1938 1938 Mar 26 23:00s 1:00
p 1939 1939 Apr 15 23:00s 1:00
p 1939 1939 Nov 18 23:00s 0:00
p 1940 1940 Feb 24 23:00s 1:00
p 1940 1940 Oct 7 23:00s 0:00
p 1941 1941 Apr 5 23:00s 1:00
p 1941 1941 Oct 5 23:00s 0:00
p 1942 1945 Mar Sat>=8 23:00s 1:00
p 1942 1942 Apr 25 22:00s 2:00
p 1942 1942 Aug 15 22:00s 1:00
p 1942 1945 Oct Sat>=24 23:00s 0:00
p 1943 1943 Apr 17 22:00s 2:00
p 1943 1945 Aug Sat>=25 22:00s 1:00
p 1944 1945 Apr Sat>=21 22:00s 2:00
p 1946 1946 Apr Sat>=1 23:00s 1:00
p 1946 1946 Oct Sat>=1 23:00s 0:00
p 1947 1966 Apr Sun>=1 2:00s 1:00
p 1947 1965 Oct Sun>=1 2:00s 0:00
p 1976 1976 Sep lastSun 1:00 0:00
p 1977 1977 Mar lastSun 0:00s 1:00
p 1977 1977 Sep lastSun 0:00s 0:00
p 1978 1980 Apr Sun>=1 1:00s 1:00
p 1978 1978 Oct 1 1:00s 0:00
p 1979 1980 Sep lastSun 1:00s 0:00
p 1981 1986 Mar lastSun 0:00s 1:00
p 1981 1985 Sep lastSun 0:00s 0:00
z 1932 1932 May 21 0:00s 1:00
z 1932 1939 Oct Sun>=1 0:00s 0:00
z 1933 1939 Apr Sun>=2 0:00s 1:00
z 1979 1979 May 27 0:00 1:00
z 1979 1979 Sep lastSun 0:00 0:00
z 1980 1980 Apr 5 23:00 1:00
z 1980 1980 Sep lastSun 1:00 0:00
z 1991 1993 Mar lastSun 0:00s 1:00
z 1991 1993 Sep lastSun 0:00s 0:00
s 1918 1918 Apr 15 23:00 1:00
s 1918 1919 Oct 6 24:00s 0:00
s 1919 1919 Apr 6 23:00 1:00
s 1924 1924 Apr 16 23:00 1:00
s 1924 1924 Oct 4 24:00s 0:00
s 1926 1926 Apr 17 23:00 1:00
s 1926 1929 Oct Sat>=1 24:00s 0:00
s 1927 1927 Apr 9 23:00 1:00
s 1928 1928 Apr 15 0:00 1:00
s 1929 1929 Apr 20 23:00 1:00
s 1937 1937 Jun 16 23:00 1:00
s 1937 1937 Oct 2 24:00s 0:00
s 1938 1938 Apr 2 23:00 1:00
s 1938 1938 Apr 30 23:00 2:00
s 1938 1938 Oct 2 24:00 1:00
s 1939 1939 Oct 7 24:00s 0:00
s 1942 1942 May 2 23:00 1:00
s 1942 1942 Sep 1 1:00 0:00
s 1943 1946 Apr Sat>=13 23:00 1:00
s 1943 1944 Oct Sun>=1 1:00 0:00
s 1945 1946 Sep lastSun 1:00 0:00
s 1949 1949 Apr 30 23:00 1:00
s 1949 1949 Oct 2 1:00 0:00
s 1974 1975 Apr Sat>=12 23:00 1:00
s 1974 1975 Oct Sun>=1 1:00 0:00
s 1976 1976 Mar 27 23:00 1:00
s 1976 1977 Sep lastSun 1:00 0:00
s 1977 1977 Apr 2 23:00 1:00
s 1978 1978 Apr 2 2:00s 1:00
s 1978 1978 Oct 1 2:00s 0:00
Sp 1967 1967 Jun 3 12:00 1:00
Sp 1967 1967 Oct 1 0:00 0:00
Sp 1974 1974 Jun 24 0:00 1:00
Sp 1974 1974 Sep 1 0:00 0:00
Sp 1976 1977 May 1 0:00 1:00
Sp 1976 1976 Aug 1 0:00 0:00
Sp 1977 1977 Sep 28 0:00 0:00
Sp 1978 1978 Jun 1 0:00 1:00
Sp 1978 1978 Aug 4 0:00 0:00
CH 1941 1942 May Mon>=1 1:00 1:00
CH 1941 1942 Oct Mon>=1 2:00 0:00
T 1916 1916 May 1 0:00 1:00
T 1916 1916 Oct 1 0:00 0:00
T 1920 1920 Mar 28 0:00 1:00
T 1920 1920 Oct 25 0:00 0:00
T 1921 1921 Apr 3 0:00 1:00
T 1921 1921 Oct 3 0:00 0:00
T 1922 1922 Mar 26 0:00 1:00
T 1922 1922 Oct 8 0:00 0:00
T 1924 1924 May 13 0:00 1:00
T 1924 1925 Oct 1 0:00 0:00
T 1925 1925 May 1 0:00 1:00
T 1940 1940 Jul 1 0:00 1:00
T 1940 1940 Oct 6 0:00 0:00
T 1940 1940 Dec 1 0:00 1:00
T 1941 1941 Sep 21 0:00 0:00
T 1942 1942 Apr 1 0:00 1:00
T 1945 1945 Oct 8 0:00 0:00
T 1946 1946 Jun 1 0:00 1:00
T 1946 1946 Oct 1 0:00 0:00
T 1947 1948 Apr Sun>=16 0:00 1:00
T 1947 1951 Oct Sun>=2 0:00 0:00
T 1949 1949 Apr 10 0:00 1:00
T 1950 1950 Apr 16 0:00 1:00
T 1951 1951 Apr 22 0:00 1:00
T 1962 1962 Jul 15 0:00 1:00
T 1963 1963 Oct 30 0:00 0:00
T 1964 1964 May 15 0:00 1:00
T 1964 1964 Oct 1 0:00 0:00
T 1973 1973 Jun 3 1:00 1:00
T 1973 1976 Oct Sun>=31 2:00 0:00
T 1974 1974 Mar 31 2:00 1:00
T 1975 1975 Mar 22 2:00 1:00
T 1976 1976 Mar 21 2:00 1:00
T 1977 1978 Apr Sun>=1 2:00 1:00
T 1977 1978 Oct Sun>=15 2:00 0:00
T 1978 1978 Jun 29 0:00 0:00
T 1983 1983 Jul 31 2:00 1:00
T 1983 1983 Oct 2 2:00 0:00
T 1985 1985 Apr 20 1:00s 1:00
T 1985 1985 Sep 28 1:00s 0:00
T 1986 1993 Mar lastSun 1:00s 1:00
T 1986 1995 Sep lastSun 1:00s 0:00
T 1994 1994 Mar 20 1:00s 1:00
T 1995 2006 Mar lastSun 1:00s 1:00
T 1996 2006 Oct lastSun 1:00s 0:00
u 1918 1919 Mar lastSun 2:00 1:00
u 1918 1919 Oct lastSun 2:00 0:00
u 1942 1942 Feb 9 2:00 1:00
u 1945 1945 Aug 14 23:00u 1:00
u 1945 1945 Sep 30 2:00 0:00
u 1967 2006 Oct lastSun 2:00 0:00
u 1967 1973 Apr lastSun 2:00 1:00
u 1974 1974 Jan 6 2:00 1:00
u 1975 1975 Feb lastSun 2:00 1:00
u 1976 1986 Apr lastSun 2:00 1:00
u 1987 2006 Apr Sun>=1 2:00 1:00
u 2007 max Mar Sun>=8 2:00 1:00
u 2007 max Nov Sun>=1 2:00 0:00
NY 1920 1920 Mar lastSun 2:00 1:00
NY 1920 1920 Oct lastSun 2:00 0:00
NY 1921 1966 Apr lastSun 2:00 1:00
NY 1921 1954 Sep lastSun 2:00 0:00
NY 1955 1966 Oct lastSun 2:00 0:00
Ch 1920 1920 Jun 13 2:00 1:00
Ch 1920 1921 Oct lastSun 2:00 0:00
Ch 1921 1921 Mar lastSun 2:00 1:00
Ch 1922 1966 Apr lastSun 2:00 1:00
Ch 1922 1954 Sep lastSun 2:00 0:00
Ch 1955 1966 Oct lastSun 2:00 0:00
De 1920 1921 Mar lastSun 2:00 1:00
De 1920 1920 Oct lastSun 2:00 0:00
De 1921 1921 May 22 2:00 0:00
De 1965 1966 Apr lastSun 2:00 1:00
De 1965 1966 Oct lastSun 2:00 0:00
CA 1948 1948 Mar 14 2:01 1:00
CA 1949 1949 Jan 1 2:00 0:00
CA 1950 1966 Apr lastSun 1:00 1:00
CA 1950 1961 Sep lastSun 2:00 0:00
CA 1962 1966 Oct lastSun 2:00 0:00
In 1941 1941 Jun 22 2:00 1:00
In 1941 1954 Sep lastSun 2:00 0:00
In 1946 1954 Apr lastSun 2:00 1:00
Ma 1951 1951 Apr lastSun 2:00 1:00
Ma 1951 1951 Sep lastSun 2:00 0:00
Ma 1954 1960 Apr lastSun 2:00 1:00
Ma 1954 1960 Sep lastSun 2:00 0:00
V 1946 1946 Apr lastSun 2:00 1:00
V 1946 1946 Sep lastSun 2:00 0:00
V 1953 1954 Apr lastSun 2:00 1:00
V 1953 1959 Sep lastSun 2:00 0:00
V 1955 1955 May 1 0:00 1:00
V 1956 1963 Apr lastSun 2:00 1:00
V 1960 1960 Oct lastSun 2:00 0:00
V 1961 1961 Sep lastSun 2:00 0:00
V 1962 1963 Oct lastSun 2:00 0:00
Pe 1955 1955 May 1 0:00 1:00
Pe 1955 1960 Sep lastSun 2:00 0:00
Pe 1956 1963 Apr lastSun 2:00 1:00
Pe 1961 1963 Oct lastSun 2:00 0:00
Pi 1955 1955 May 1 0:00 1:00
Pi 1955 1960 Sep lastSun 2:00 0:00
Pi 1956 1964 Apr lastSun 2:00 1:00
Pi 1961 1964 Oct lastSun 2:00 0:00
St 1947 1961 Apr lastSun 2:00 1:00
St 1947 1954 Sep lastSun 2:00 0:00
St 1955 1956 Oct lastSun 2:00 0:00
St 1957 1958 Sep lastSun 2:00 0:00
St 1959 1961 Oct lastSun 2:00 0:00
Pu 1946 1960 Apr lastSun 2:00 1:00
Pu 1946 1954 Sep lastSun 2:00 0:00
Pu 1955 1956 Oct lastSun 2:00 0:00
Pu 1957 1960 Sep lastSun 2:00 0:00
v 1921 1921 May 1 2:00 1:00
v 1921 1921 Sep 1 2:00 0:00
v 1941 1941 Apr lastSun 2:00 1:00
v 1941 1941 Sep lastSun 2:00 0:00
v 1946 1946 Apr lastSun 0:01 1:00
v 1946 1946 Jun 2 2:00 0:00
v 1950 1961 Apr lastSun 2:00 1:00
v 1950 1955 Sep lastSun 2:00 0:00
v 1956 1961 Oct lastSun 2:00 0:00
Dt 1948 1948 Apr lastSun 2:00 1:00
Dt 1948 1948 Sep lastSun 2:00 0:00
Me 1946 1946 Apr lastSun 2:00 1:00
Me 1946 1946 Sep lastSun 2:00 0:00
Me 1966 1966 Apr lastSun 2:00 1:00
Me 1966 1966 Oct lastSun 2:00 0:00
C 1918 1918 Apr 14 2:00 1:00
C 1918 1918 Oct 27 2:00 0:00
C 1942 1942 Feb 9 2:00 1:00
C 1945 1945 Aug 14 23:00u 1:00
C 1945 1945 Sep 30 2:00 0:00
C 1974 1986 Apr lastSun 2:00 1:00
C 1974 2006 Oct lastSun 2:00 0:00
C 1987 2006 Apr Sun>=1 2:00 1:00
C 2007 max Mar Sun>=8 2:00 1:00
C 2007 max Nov Sun>=1 2:00 0:00
j 1917 1917 Apr 8 2:00 1:00
j 1917 1917 Sep 17 2:00 0:00
j 1919 1919 May 5 23:00 1:00
j 1919 1919 Aug 12 23:00 0:00
j 1920 1935 May Sun>=1 23:00 1:00
j 1920 1935 Oct lastSun 23:00 0:00
j 1936 1941 May Mon>=9 0:00 1:00
j 1936 1941 Oct Mon>=2 0:00 0:00
j 1946 1950 May Sun>=8 2:00 1:00
j 1946 1950 Oct Sun>=2 2:00 0:00
j 1951 1986 Apr lastSun 2:00 1:00
j 1951 1959 Sep lastSun 2:00 0:00
j 1960 1986 Oct lastSun 2:00 0:00
j 1987 1987 Apr Sun>=1 0:01 1:00
j 1987 2006 Oct lastSun 0:01 0:00
j 1988 1988 Apr Sun>=1 0:01 2:00
j 1989 2006 Apr Sun>=1 0:01 1:00
j 2007 2011 Mar Sun>=8 0:01 1:00
j 2007 2010 Nov Sun>=1 0:01 0:00
H 1916 1916 Apr 1 0:00 1:00
H 1916 1916 Oct 1 0:00 0:00
H 1920 1920 May 9 0:00 1:00
H 1920 1920 Aug 29 0:00 0:00
H 1921 1921 May 6 0:00 1:00
H 1921 1922 Sep 5 0:00 0:00
H 1922 1922 Apr 30 0:00 1:00
H 1923 1925 May Sun>=1 0:00 1:00
H 1923 1923 Sep 4 0:00 0:00
H 1924 1924 Sep 15 0:00 0:00
H 1925 1925 Sep 28 0:00 0:00
H 1926 1926 May 16 0:00 1:00
H 1926 1926 Sep 13 0:00 0:00
H 1927 1927 May 1 0:00 1:00
H 1927 1927 Sep 26 0:00 0:00
H 1928 1931 May Sun>=8 0:00 1:00
H 1928 1928 Sep 9 0:00 0:00
H 1929 1929 Sep 3 0:00 0:00
H 1930 1930 Sep 15 0:00 0:00
H 1931 1932 Sep Mon>=24 0:00 0:00
H 1932 1932 May 1 0:00 1:00
H 1933 1933 Apr 30 0:00 1:00
H 1933 1933 Oct 2 0:00 0:00
H 1934 1934 May 20 0:00 1:00
H 1934 1934 Sep 16 0:00 0:00
H 1935 1935 Jun 2 0:00 1:00
H 1935 1935 Sep 30 0:00 0:00
H 1936 1936 Jun 1 0:00 1:00
H 1936 1936 Sep 14 0:00 0:00
H 1937 1938 May Sun>=1 0:00 1:00
H 1937 1941 Sep Mon>=24 0:00 0:00
H 1939 1939 May 28 0:00 1:00
H 1940 1941 May Sun>=1 0:00 1:00
H 1946 1949 Apr lastSun 2:00 1:00
H 1946 1949 Sep lastSun 2:00 0:00
H 1951 1954 Apr lastSun 2:00 1:00
H 1951 1954 Sep lastSun 2:00 0:00
H 1956 1959 Apr lastSun 2:00 1:00
H 1956 1959 Sep lastSun 2:00 0:00
H 1962 1973 Apr lastSun 2:00 1:00
H 1962 1973 Oct lastSun 2:00 0:00
o 1933 1935 Jun Sun>=8 1:00 1:00
o 1933 1935 Sep Sun>=8 1:00 0:00
o 1936 1938 Jun Sun>=1 1:00 1:00
o 1936 1938 Sep Sun>=1 1:00 0:00
o 1939 1939 May 27 1:00 1:00
o 1939 1941 Sep Sat>=21 1:00 0:00
o 1940 1940 May 19 1:00 1:00
o 1941 1941 May 4 1:00 1:00
o 1946 1972 Apr lastSun 2:00 1:00
o 1946 1956 Sep lastSun 2:00 0:00
o 1957 1972 Oct lastSun 2:00 0:00
o 1993 2006 Apr Sun>=1 0:01 1:00
o 1993 2006 Oct lastSun 0:01 0:00
t 1919 1919 Mar 30 23:30 1:00
t 1919 1919 Oct 26 0:00 0:00
t 1920 1920 May 2 2:00 1:00
t 1920 1920 Sep 26 0:00 0:00
t 1921 1921 May 15 2:00 1:00
t 1921 1921 Sep 15 2:00 0:00
t 1922 1923 May Sun>=8 2:00 1:00
t 1922 1926 Sep Sun>=15 2:00 0:00
t 1924 1927 May Sun>=1 2:00 1:00
t 1927 1937 Sep Sun>=25 2:00 0:00
t 1928 1937 Apr Sun>=25 2:00 1:00
t 1938 1940 Apr lastSun 2:00 1:00
t 1938 1939 Sep lastSun 2:00 0:00
t 1945 1948 Sep lastSun 2:00 0:00
t 1946 1973 Apr lastSun 2:00 1:00
t 1949 1950 Nov lastSun 2:00 0:00
t 1951 1956 Sep lastSun 2:00 0:00
t 1957 1973 Oct lastSun 2:00 0:00
W 1916 1916 Apr 23 0:00 1:00
W 1916 1916 Sep 17 0:00 0:00
W 1918 1918 Apr 14 2:00 1:00
W 1918 1918 Oct 27 2:00 0:00
W 1937 1937 May 16 2:00 1:00
W 1937 1937 Sep 26 2:00 0:00
W 1942 1942 Feb 9 2:00 1:00
W 1945 1945 Aug 14 23:00u 1:00
W 1945 1945 Sep lastSun 2:00 0:00
W 1946 1946 May 12 2:00 1:00
W 1946 1946 Oct 13 2:00 0:00
W 1947 1949 Apr lastSun 2:00 1:00
W 1947 1949 Sep lastSun 2:00 0:00
W 1950 1950 May 1 2:00 1:00
W 1950 1950 Sep 30 2:00 0:00
W 1951 1960 Apr lastSun 2:00 1:00
W 1951 1958 Sep lastSun 2:00 0:00
W 1959 1959 Oct lastSun 2:00 0:00
W 1960 1960 Sep lastSun 2:00 0:00
W 1963 1963 Apr lastSun 2:00 1:00
W 1963 1963 Sep 22 2:00 0:00
W 1966 1986 Apr lastSun 2:00s 1:00
W 1966 2005 Oct lastSun 2:00s 0:00
W 1987 2005 Apr Sun>=1 2:00s 1:00
r 1918 1918 Apr 14 2:00 1:00
r 1918 1918 Oct 27 2:00 0:00
r 1930 1934 May Sun>=1 0:00 1:00
r 1930 1934 Oct Sun>=1 0:00 0:00
r 1937 1941 Apr Sun>=8 0:00 1:00
r 1937 1937 Oct Sun>=8 0:00 0:00
r 1938 1938 Oct Sun>=1 0:00 0:00
r 1939 1941 Oct Sun>=8 0:00 0:00
r 1942 1942 Feb 9 2:00 1:00
r 1945 1945 Aug 14 23:00u 1:00
r 1945 1945 Sep lastSun 2:00 0:00
r 1946 1946 Apr Sun>=8 2:00 1:00
r 1946 1946 Oct Sun>=8 2:00 0:00
r 1947 1957 Apr lastSun 2:00 1:00
r 1947 1957 Sep lastSun 2:00 0:00
r 1959 1959 Apr lastSun 2:00 1:00
r 1959 1959 Oct lastSun 2:00 0:00
Sw 1957 1957 Apr lastSun 2:00 1:00
Sw 1957 1957 Oct lastSun 2:00 0:00
Sw 1959 1961 Apr lastSun 2:00 1:00
Sw 1959 1959 Oct lastSun 2:00 0:00
Sw 1960 1961 Sep lastSun 2:00 0:00
Ed 1918 1919 Apr Sun>=8 2:00 1:00
Ed 1918 1918 Oct 27 2:00 0:00
Ed 1919 1919 May 27 2:00 0:00
Ed 1920 1923 Apr lastSun 2:00 1:00
Ed 1920 1920 Oct lastSun 2:00 0:00
Ed 1921 1923 Sep lastSun 2:00 0:00
Ed 1942 1942 Feb 9 2:00 1:00
Ed 1945 1945 Aug 14 23:00u 1:00
Ed 1945 1945 Sep lastSun 2:00 0:00
Ed 1947 1947 Apr lastSun 2:00 1:00
Ed 1947 1947 Sep lastSun 2:00 0:00
Ed 1972 1986 Apr lastSun 2:00 1:00
Ed 1972 2006 Oct lastSun 2:00 0:00
Va 1918 1918 Apr 14 2:00 1:00
Va 1918 1918 Oct 27 2:00 0:00
Va 1942 1942 Feb 9 2:00 1:00
Va 1945 1945 Aug 14 23:00u 1:00
Va 1945 1945 Sep 30 2:00 0:00
Va 1946 1986 Apr lastSun 2:00 1:00
Va 1946 1946 Sep 29 2:00 0:00
Va 1947 1961 Sep lastSun 2:00 0:00
Va 1962 2006 Oct lastSun 2:00 0:00
Y 1918 1918 Apr 14 2:00 1:00
Y 1918 1918 Oct 27 2:00 0:00
Y 1919 1919 May 25 2:00 1:00
Y 1919 1919 Nov 1 0:00 0:00
Y 1942 1942 Feb 9 2:00 1:00
Y 1945 1945 Aug 14 23:00u 1:00
Y 1945 1945 Sep 30 2:00 0:00
Y 1972 1986 Apr lastSun 2:00 1:00
Y 1972 2006 Oct lastSun 2:00 0:00
Y 1987 2006 Apr Sun>=1 2:00 1:00
Yu 1965 1965 Apr lastSun 0:00 2:00
Yu 1965 1965 Oct lastSun 2:00 0:00
m 1931 1931 Apr 30 0:00 1:00
m 1931 1931 Oct 1 0:00 0:00
m 1939 1939 Feb 5 0:00 1:00
m 1939 1939 Jun 25 0:00 0:00
m 1940 1940 Dec 9 0:00 1:00
m 1941 1941 Apr 1 0:00 0:00
m 1943 1943 Dec 16 0:00 1:00
m 1944 1944 May 1 0:00 0:00
m 1950 1950 Feb 12 0:00 1:00
m 1950 1950 Jul 30 0:00 0:00
m 1996 2000 Apr Sun>=1 2:00 1:00
m 1996 2000 Oct lastSun 2:00 0:00
m 2001 2001 May Sun>=1 2:00 1:00
m 2001 2001 Sep lastSun 2:00 0:00
m 2002 2022 Apr Sun>=1 2:00 1:00
m 2002 2022 Oct lastSun 2:00 0:00
BB 1942 1942 Apr 19 5:00u 1:00
BB 1942 1942 Aug 31 6:00u 0:00
BB 1943 1943 May 2 5:00u 1:00
BB 1943 1943 Sep 5 6:00u 0:00
BB 1944 1944 Apr 10 5:00u 0:30
BB 1944 1944 Sep 10 6:00u 0:00
BB 1977 1977 Jun 12 2:00 1:00
BB 1977 1978 Oct Sun>=1 2:00 0:00
BB 1978 1980 Apr Sun>=15 2:00 1:00
BB 1979 1979 Sep 30 2:00 0:00
BB 1980 1980 Sep 25 2:00 0:00
BZ 1918 1941 Oct Sat>=1 24:00 0:30
BZ 1919 1942 Feb Sat>=8 24:00 0:00
BZ 1942 1942 Jun 27 24:00 1:00
BZ 1945 1945 Aug 14 23:00u 1:00
BZ 1945 1945 Dec 15 24:00 0:00
BZ 1947 1967 Oct Sat>=1 24:00 0:30
BZ 1948 1968 Feb Sat>=8 24:00 0:00
BZ 1973 1973 Dec 5 0:00 1:00
BZ 1974 1974 Feb 9 0:00 0:00
BZ 1982 1982 Dec 18 0:00 1:00
BZ 1983 1983 Feb 12 0:00 0:00
Be 1917 1917 Apr 5 24:00 1:00
Be 1917 1917 Sep 30 24:00 0:00
Be 1918 1918 Apr 13 24:00 1:00
Be 1918 1918 Sep 15 24:00 0:00
Be 1942 1942 Jan 11 2:00 1:00
Be 1942 1942 Oct 18 2:00 0:00
Be 1943 1943 Mar 21 2:00 1:00
Be 1943 1943 Oct 31 2:00 0:00
Be 1944 1945 Mar Sun>=8 2:00 1:00
Be 1944 1945 Nov Sun>=1 2:00 0:00
Be 1947 1947 May Sun>=15 2:00 1:00
Be 1947 1947 Sep Sun>=8 2:00 0:00
Be 1948 1952 May Sun>=22 2:00 1:00
Be 1948 1952 Sep Sun>=1 2:00 0:00
Be 1956 1956 May Sun>=22 2:00 1:00
Be 1956 1956 Oct lastSun 2:00 0:00
CR 1979 1980 Feb lastSun 0:00 1:00
CR 1979 1980 Jun Sun>=1 0:00 0:00
CR 1991 1992 Jan Sat>=15 0:00 1:00
CR 1991 1991 Jul 1 0:00 0:00
CR 1992 1992 Mar 15 0:00 0:00
Q 1928 1928 Jun 10 0:00 1:00
Q 1928 1928 Oct 10 0:00 0:00
Q 1940 1942 Jun Sun>=1 0:00 1:00
Q 1940 1942 Sep Sun>=1 0:00 0:00
Q 1945 1946 Jun Sun>=1 0:00 1:00
Q 1945 1946 Sep Sun>=1 0:00 0:00
Q 1965 1965 Jun 1 0:00 1:00
Q 1965 1965 Sep 30 0:00 0:00
Q 1966 1966 May 29 0:00 1:00
Q 1966 1966 Oct 2 0:00 0:00
Q 1967 1967 Apr 8 0:00 1:00
Q 1967 1968 Sep Sun>=8 0:00 0:00
Q 1968 1968 Apr 14 0:00 1:00
Q 1969 1977 Apr lastSun 0:00 1:00
Q 1969 1971 Oct lastSun 0:00 0:00
Q 1972 1974 Oct 8 0:00 0:00
Q 1975 1977 Oct lastSun 0:00 0:00
Q 1978 1978 May 7 0:00 1:00
Q 1978 1990 Oct Sun>=8 0:00 0:00
Q 1979 1980 Mar Sun>=15 0:00 1:00
Q 1981 1985 May Sun>=5 0:00 1:00
Q 1986 1989 Mar Sun>=14 0:00 1:00
Q 1990 1997 Apr Sun>=1 0:00 1:00
Q 1991 1995 Oct Sun>=8 0:00s 0:00
Q 1996 1996 Oct 6 0:00s 0:00
Q 1997 1997 Oct 12 0:00s 0:00
Q 1998 1999 Mar lastSun 0:00s 1:00
Q 1998 2003 Oct lastSun 0:00s 0:00
Q 2000 2003 Apr Sun>=1 0:00s 1:00
Q 2004 2004 Mar lastSun 0:00s 1:00
Q 2006 2010 Oct lastSun 0:00s 0:00
Q 2007 2007 Mar Sun>=8 0:00s 1:00
Q 2008 2008 Mar Sun>=15 0:00s 1:00
Q 2009 2010 Mar Sun>=8 0:00s 1:00
Q 2011 2011 Mar Sun>=15 0:00s 1:00
Q 2011 2011 Nov 13 0:00s 0:00
Q 2012 2012 Apr 1 0:00s 1:00
Q 2012 max Nov Sun>=1 0:00s 0:00
Q 2013 max Mar Sun>=8 0:00s 1:00
DO 1966 1966 Oct 30 0:00 1:00
DO 1967 1967 Feb 28 0:00 0:00
DO 1969 1973 Oct lastSun 0:00 0:30
DO 1970 1970 Feb 21 0:00 0:00
DO 1971 1971 Jan 20 0:00 0:00
DO 1972 1974 Jan 21 0:00 0:00
SV 1987 1988 May Sun>=1 0:00 1:00
SV 1987 1988 Sep lastSun 0:00 0:00
GT 1973 1973 Nov 25 0:00 1:00
GT 1974 1974 Feb 24 0:00 0:00
GT 1983 1983 May 21 0:00 1:00
GT 1983 1983 Sep 22 0:00 0:00
GT 1991 1991 Mar 23 0:00 1:00
GT 1991 1991 Sep 7 0:00 0:00
GT 2006 2006 Apr 30 0:00 1:00
GT 2006 2006 Oct 1 0:00 0:00
HT 1983 1983 May 8 0:00 1:00
HT 1984 1987 Apr lastSun 0:00 1:00
HT 1983 1987 Oct lastSun 0:00 0:00
HT 1988 1997 Apr Sun>=1 1:00s 1:00
HT 1988 1997 Oct lastSun 1:00s 0:00
HT 2005 2006 Apr Sun>=1 0:00 1:00
HT 2005 2006 Oct lastSun 0:00 0:00
HT 2012 2015 Mar Sun>=8 2:00 1:00
HT 2012 2015 Nov Sun>=1 2:00 0:00
HT 2017 max Mar Sun>=8 2:00 1:00
HT 2017 max Nov Sun>=1 2:00 0:00
HN 1987 1988 May Sun>=1 0:00 1:00
HN 1987 1988 Sep lastSun 0:00 0:00
HN 2006 2006 May Sun>=1 0:00 1:00
HN 2006 2006 Aug Mon>=1 0:00 0:00
NI 1979 1980 Mar Sun>=16 0:00 1:00
NI 1979 1980 Jun Mon>=23 0:00 0:00
NI 2005 2005 Apr 10 0:00 1:00
NI 2005 2005 Oct Sun>=1 0:00 0:00
NI 2006 2006 Apr 30 2:00 1:00
NI 2006 2006 Oct Sun>=1 1:00 0:00
A 1930 1930 Dec 1 0:00 1:00
A 1931 1931 Apr 1 0:00 0:00
A 1931 1931 Oct 15 0:00 1:00
A 1932 1940 Mar 1 0:00 0:00
A 1932 1939 Nov 1 0:00 1:00
A 1940 1940 Jul 1 0:00 1:00
A 1941 1941 Jun 15 0:00 0:00
A 1941 1941 Oct 15 0:00 1:00
A 1943 1943 Aug 1 0:00 0:00
A 1943 1943 Oct 15 0:00 1:00
A 1946 1946 Mar 1 0:00 0:00
A 1946 1946 Oct 1 0:00 1:00
A 1963 1963 Oct 1 0:00 0:00
A 1963 1963 Dec 15 0:00 1:00
A 1964 1966 Mar 1 0:00 0:00
A 1964 1966 Oct 15 0:00 1:00
A 1967 1967 Apr 2 0:00 0:00
A 1967 1968 Oct Sun>=1 0:00 1:00
A 1968 1969 Apr Sun>=1 0:00 0:00
A 1974 1974 Jan 23 0:00 1:00
A 1974 1974 May 1 0:00 0:00
A 1988 1988 Dec 1 0:00 1:00
A 1989 1993 Mar Sun>=1 0:00 0:00
A 1989 1992 Oct Sun>=15 0:00 1:00
A 1999 1999 Oct Sun>=1 0:00 1:00
A 2000 2000 Mar 3 0:00 0:00
A 2007 2007 Dec 30 0:00 1:00
A 2008 2009 Mar Sun>=15 0:00 0:00
A 2008 2008 Oct Sun>=15 0:00 1:00
Sa 2008 2009 Mar Sun>=8 0:00 0:00
Sa 2007 2008 Oct Sun>=8 0:00 1:00
B 1931 1931 Oct 3 11:00 1:00
B 1932 1933 Apr 1 0:00 0:00
B 1932 1932 Oct 3 0:00 1:00
B 1949 1952 Dec 1 0:00 1:00
B 1950 1950 Apr 16 1:00 0:00
B 1951 1952 Apr 1 0:00 0:00
B 1953 1953 Mar 1 0:00 0:00
B 1963 1963 Dec 9 0:00 1:00
B 1964 1964 Mar 1 0:00 0:00
B 1965 1965 Jan 31 0:00 1:00
B 1965 1965 Mar 31 0:00 0:00
B 1965 1965 Dec 1 0:00 1:00
B 1966 1968 Mar 1 0:00 0:00
B 1966 1967 Nov 1 0:00 1:00
B 1985 1985 Nov 2 0:00 1:00
B 1986 1986 Mar 15 0:00 0:00
B 1986 1986 Oct 25 0:00 1:00
B 1987 1987 Feb 14 0:00 0:00
B 1987 1987 Oct 25 0:00 1:00
B 1988 1988 Feb 7 0:00 0:00
B 1988 1988 Oct 16 0:00 1:00
B 1989 1989 Jan 29 0:00 0:00
B 1989 1989 Oct 15 0:00 1:00
B 1990 1990 Feb 11 0:00 0:00
B 1990 1990 Oct 21 0:00 1:00
B 1991 1991 Feb 17 0:00 0:00
B 1991 1991 Oct 20 0:00 1:00
B 1992 1992 Feb 9 0:00 0:00
B 1992 1992 Oct 25 0:00 1:00
B 1993 1993 Jan 31 0:00 0:00
B 1993 1995 Oct Sun>=11 0:00 1:00
B 1994 1995 Feb Sun>=15 0:00 0:00
B 1996 1996 Feb 11 0:00 0:00
B 1996 1996 Oct 6 0:00 1:00
B 1997 1997 Feb 16 0:00 0:00
B 1997 1997 Oct 6 0:00 1:00
B 1998 1998 Mar 1 0:00 0:00
B 1998 1998 Oct 11 0:00 1:00
B 1999 1999 Feb 21 0:00 0:00
B 1999 1999 Oct 3 0:00 1:00
B 2000 2000 Feb 27 0:00 0:00
B 2000 2001 Oct Sun>=8 0:00 1:00
B 2001 2006 Feb Sun>=15 0:00 0:00
B 2002 2002 Nov 3 0:00 1:00
B 2003 2003 Oct 19 0:00 1:00
B 2004 2004 Nov 2 0:00 1:00
B 2005 2005 Oct 16 0:00 1:00
B 2006 2006 Nov 5 0:00 1:00
B 2007 2007 Feb 25 0:00 0:00
B 2007 2007 Oct Sun>=8 0:00 1:00
B 2008 2017 Oct Sun>=15 0:00 1:00
B 2008 2011 Feb Sun>=15 0:00 0:00
B 2012 2012 Feb Sun>=22 0:00 0:00
B 2013 2014 Feb Sun>=15 0:00 0:00
B 2015 2015 Feb Sun>=22 0:00 0:00
B 2016 2019 Feb Sun>=15 0:00 0:00
B 2018 2018 Nov Sun>=1 0:00 1:00
x 1927 1931 Sep 1 0:00 1:00
x 1928 1932 Apr 1 0:00 0:00
x 1968 1968 Nov 3 4:00u 1:00
x 1969 1969 Mar 30 3:00u 0:00
x 1969 1969 Nov 23 4:00u 1:00
x 1970 1970 Mar 29 3:00u 0:00
x 1971 1971 Mar 14 3:00u 0:00
x 1970 1972 Oct Sun>=9 4:00u 1:00
x 1972 1986 Mar Sun>=9 3:00u 0:00
x 1973 1973 Sep 30 4:00u 1:00
x 1974 1987 Oct Sun>=9 4:00u 1:00
x 1987 1987 Apr 12 3:00u 0:00
x 1988 1990 Mar Sun>=9 3:00u 0:00
x 1988 1989 Oct Sun>=9 4:00u 1:00
x 1990 1990 Sep 16 4:00u 1:00
x 1991 1996 Mar Sun>=9 3:00u 0:00
x 1991 1997 Oct Sun>=9 4:00u 1:00
x 1997 1997 Mar 30 3:00u 0:00
x 1998 1998 Mar Sun>=9 3:00u 0:00
x 1998 1998 Sep 27 4:00u 1:00
x 1999 1999 Apr 4 3:00u 0:00
x 1999 2010 Oct Sun>=9 4:00u 1:00
x 2000 2007 Mar Sun>=9 3:00u 0:00
x 2008 2008 Mar 30 3:00u 0:00
x 2009 2009 Mar Sun>=9 3:00u 0:00
x 2010 2010 Apr Sun>=1 3:00u 0:00
x 2011 2011 May Sun>=2 3:00u 0:00
x 2011 2011 Aug Sun>=16 4:00u 1:00
x 2012 2014 Apr Sun>=23 3:00u 0:00
x 2012 2014 Sep Sun>=2 4:00u 1:00
x 2016 2018 May Sun>=9 3:00u 0:00
x 2016 2018 Aug Sun>=9 4:00u 1:00
x 2019 max Apr Sun>=2 3:00u 0:00
x 2019 2021 Sep Sun>=2 4:00u 1:00
x 2022 2022 Sep Sun>=9 4:00u 1:00
x 2023 max Sep Sun>=2 4:00u 1:00
CO 1992 1992 May 3 0:00 1:00
CO 1993 1993 Feb 6 24:00 0:00
EC 1992 1992 Nov 28 0:00 1:00
EC 1993 1993 Feb 5 0:00 0:00
FK 1937 1938 Sep lastSun 0:00 1:00
FK 1938 1942 Mar Sun>=19 0:00 0:00
FK 1939 1939 Oct 1 0:00 1:00
FK 1940 1942 Sep lastSun 0:00 1:00
FK 1943 1943 Jan 1 0:00 0:00
FK 1983 1983 Sep lastSun 0:00 1:00
FK 1984 1985 Apr lastSun 0:00 0:00
FK 1984 1984 Sep 16 0:00 1:00
FK 1985 2000 Sep Sun>=9 0:00 1:00
FK 1986 2000 Apr Sun>=16 0:00 0:00
FK 2001 2010 Apr Sun>=15 2:00 0:00
FK 2001 2010 Sep Sun>=1 2:00 1:00
y 1975 1988 Oct 1 0:00 1:00
y 1975 1978 Mar 1 0:00 0:00
y 1979 1991 Apr 1 0:00 0:00
y 1989 1989 Oct 22 0:00 1:00
y 1990 1990 Oct 1 0:00 1:00
y 1991 1991 Oct 6 0:00 1:00
y 1992 1992 Mar 1 0:00 0:00
y 1992 1992 Oct 5 0:00 1:00
y 1993 1993 Mar 31 0:00 0:00
y 1993 1995 Oct 1 0:00 1:00
y 1994 1995 Feb lastSun 0:00 0:00
y 1996 1996 Mar 1 0:00 0:00
y 1996 2001 Oct Sun>=1 0:00 1:00
y 1997 1997 Feb lastSun 0:00 0:00
y 1998 2001 Mar Sun>=1 0:00 0:00
y 2002 2004 Apr Sun>=1 0:00 0:00
y 2002 2003 Sep Sun>=1 0:00 1:00
y 2004 2009 Oct Sun>=15 0:00 1:00
y 2005 2009 Mar Sun>=8 0:00 0:00
y 2010 2024 Oct Sun>=1 0:00 1:00
y 2010 2012 Apr Sun>=8 0:00 0:00
y 2013 2024 Mar Sun>=22 0:00 0:00
PE 1938 1938 Jan 1 0:00 1:00
PE 1938 1938 Apr 1 0:00 0:00
PE 1938 1939 Sep lastSun 0:00 1:00
PE 1939 1940 Mar Sun>=24 0:00 0:00
PE 1986 1987 Jan 1 0:00 1:00
PE 1986 1987 Apr 1 0:00 0:00
PE 1990 1990 Jan 1 0:00 1:00
PE 1990 1990 Apr 1 0:00 0:00
PE 1994 1994 Jan 1 0:00 1:00
PE 1994 1994 Apr 1 0:00 0:00
U 1923 1925 Oct 1 0:00 0:30
U 1924 1926 Apr 1 0:00 0:00
U 1933 1938 Oct lastSun 0:00 0:30
U 1934 1941 Mar lastSat 24:00 0:00
U 1939 1939 Oct 1 0:00 0:30
U 1940 1940 Oct 27 0:00 0:30
U 1941 1941 Aug 1 0:00 0:30
U 1942 1942 Dec 14 0:00 0:30
U 1943 1943 Mar 14 0:00 0:00
U 1959 1959 May 24 0:00 0:30
U 1959 1959 Nov 15 0:00 0:00
U 1960 1960 Jan 17 0:00 1:00
U 1960 1960 Mar 6 0:00 0:00
U 1965 1965 Apr 4 0:00 1:00
U 1965 1965 Sep 26 0:00 0:00
U 1968 1968 May 27 0:00 0:30
U 1968 1968 Dec 1 0:00 0:00
U 1970 1970 Apr 25 0:00 1:00
U 1970 1970 Jun 14 0:00 0:00
U 1972 1972 Apr 23 0:00 1:00
U 1972 1972 Jul 16 0:00 0:00
U 1974 1974 Jan 13 0:00 1:30
U 1974 1974 Mar 10 0:00 0:30
U 1974 1974 Sep 1 0:00 0:00
U 1974 1974 Dec 22 0:00 1:00
U 1975 1975 Mar 30 0:00 0:00
U 1976 1976 Dec 19 0:00 1:00
U 1977 1977 Mar 6 0:00 0:00
U 1977 1977 Dec 4 0:00 1:00
U 1978 1979 Mar Sun>=1 0:00 0:00
U 1978 1978 Dec 17 0:00 1:00
U 1979 1979 Apr 29 0:00 1:00
U 1980 1980 Mar 16 0:00 0:00
U 1987 1987 Dec 14 0:00 1:00
U 1988 1988 Feb 28 0:00 0:00
U 1988 1988 Dec 11 0:00 1:00
U 1989 1989 Mar 5 0:00 0:00
U 1989 1989 Oct 29 0:00 1:00
U 1990 1990 Feb 25 0:00 0:00
U 1990 1991 Oct Sun>=21 0:00 1:00
U 1991 1992 Mar Sun>=1 0:00 0:00
U 1992 1992 Oct 18 0:00 1:00
U 1993 1993 Feb 28 0:00 0:00
U 2004 2004 Sep 19 0:00 1:00
U 2005 2005 Mar 27 2:00 0:00
U 2005 2005 Oct 9 2:00 1:00
U 2006 2015 Mar Sun>=8 2:00 0:00
U 2006 2014 Oct Sun>=1 2:00 1:00
"

end CronHeatMap.Zone.Data
